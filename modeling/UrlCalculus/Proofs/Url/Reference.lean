import UrlCalculus.Proofs.Text.Encoding
import UrlCalculus.Url.Reference

/-!
# References cut apart again

A text that is written as a scheme, a body, a query and a fragment is cut into these parts, provided
that no part contains a character that begins a later one and that nothing is trimmed off at the
ends.
-/

namespace UrlCalculus

theorem Text.isControlOrSpace_of_isBreak {c : Char} (h : isBreak c = true) :
    isControlOrSpace c = true := by
  simp only [isBreak, Bool.or_eq_true, beq_iff_eq] at h
  rcases h with (rfl | rfl) | rfl <;> rfl

/-- What is checked of the ASCII characters holds of each of them. -/
theorem Text.of_ascii {p : Char → Prop} {c : Char} (hc : c.toNat < 128)
    (hascii : ∀ n < 128, p (Char.ofNat n)) : p c := by
  have h := hascii c.toNat hc
  rwa [Char.ofNat_toNat] at h

/-! ## Schemes -/

namespace Scheme

theorem toNat_lt_of_isSchemeChar {c : Char} (h : isSchemeChar c = true) : c.toNat < 128 := by
  have hupper (hc : c.isUpper = true) : c.toNat ≤ 90 :=
    UInt32.le_iff_toNat_le.mp (of_decide_eq_true hc).2
  have hlower (hc : c.isLower = true) : c.toNat ≤ 122 :=
    UInt32.le_iff_toNat_le.mp (of_decide_eq_true (Bool.and_eq_true_iff.mp hc).2)
  have hdigit (hc : c.isDigit = true) : c.toNat ≤ 57 := (Char.isDigit_iff_toNat.mp hc).2
  have halphanum (hc : c.isAlphanum = true) : c.toNat ≤ 122 := by
    rcases Bool.or_eq_true_iff.mp hc with hc | hc
    · rcases Bool.or_eq_true_iff.mp hc with hc | hc
      · exact (hupper hc).trans (by decide)
      · exact hlower hc
    · exact (hdigit hc).trans (by decide)
  simp only [isSchemeChar, Bool.or_eq_true, beq_iff_eq] at h
  rcases h with ((h | rfl) | rfl) | rfl
  · exact Nat.lt_of_le_of_lt (halphanum h) (by decide)
  all_goals decide

/-- What is checked of the ASCII characters holds of all characters of schemes. -/
theorem of_isSchemeChar {p : Char → Prop}
    (hascii : ∀ n < 128, isSchemeChar (Char.ofNat n) = true → p (Char.ofNat n)) {c : Char}
    (h : isSchemeChar c = true) : p c :=
  Text.of_ascii (p := fun c ↦ isSchemeChar c = true → p c) (toNat_lt_of_isSchemeChar h) hascii h

/-- Lower case takes the characters of schemes to such characters, and letters to letters. -/
theorem toLower_of_isSchemeChar {c : Char} (h : isSchemeChar c = true) :
    isSchemeChar c.toLower = true ∧ c.toLower.toLower = c.toLower ∧
      (c.isAlpha = true → c.toLower.isAlpha = true) :=
  of_isSchemeChar (p := fun c ↦ isSchemeChar c.toLower = true ∧ c.toLower.toLower = c.toLower ∧
    (c.isAlpha = true → c.toLower.isAlpha = true)) (by decide) h

theorem ofText?_eq_some {t : Text} {s : Scheme} (h : ofText? t = some s) :
    (∀ c ∈ t, isSchemeChar c = true) ∧ (∀ c ∈ t.head?, c.isAlpha = true) ∧
      s = t.map Char.toLower ∧ t ≠ [] := by
  unfold ofText? at h
  split at h
  · exact absurd h (by simp)
  · rename_i c t
    split at h
    · rename_i hc
      rw [Bool.and_eq_true, List.all_eq_true] at hc
      refine ⟨hc.2, fun d hd ↦ ?_, (Option.some.inj h).symm, List.cons_ne_nil _ _⟩
      rw [← Option.some.inj hd]
      exact hc.1
    · exact absurd h (by simp)

/-- **A scheme that was read is read as itself.** -/
theorem ofText?_ofText? {t : Text} {s : Scheme} (h : ofText? t = some s) : ofText? s = some s := by
  obtain ⟨hchars, hhead, rfl, hne⟩ := ofText?_eq_some h
  obtain ⟨c, t, rfl⟩ := List.exists_cons_of_ne_nil hne
  have hlower : ((c :: t).map Char.toLower).map Char.toLower = (c :: t).map Char.toLower := by
    rw [List.map_map]
    exact List.map_congr_left fun d hd ↦ (toLower_of_isSchemeChar (hchars d hd)).2.1
  have halpha : c.toLower.isAlpha = true :=
    (toLower_of_isSchemeChar (hchars c List.mem_cons_self)).2.2 (hhead c rfl)
  have hall : ((c :: t).map Char.toLower).all isSchemeChar = true := by
    rw [List.all_map, List.all_eq_true]
    exact fun d hd ↦ (toLower_of_isSchemeChar (hchars d hd)).1
  rw [List.map_cons] at hlower hall ⊢
  rw [ofText?, halpha, hall, Bool.and_self, if_pos rfl, hlower]

theorem avoids_of_ofText? {s : Scheme} (h : ofText? s = some s) {p : Char → Bool}
    (hp : ∀ c, p c = true → isSchemeChar c = false) : Text.Avoids p s := by
  intro c hc
  cases hpc : p c with
  | false => rfl
  | true =>
    have hscheme := (ofText?_eq_some h).1 c hc
    rw [hp c hpc] at hscheme
    exact absurd hscheme (by simp)

theorem isSchemeChar_of_isControlOrSpace {c : Char} (h : Text.isControlOrSpace c = true) :
    isSchemeChar c = false := by
  cases hc : isSchemeChar c with
  | false => rfl
  | true =>
    have hnot := of_isSchemeChar (p := fun c ↦ Text.isControlOrSpace c = false) (by decide) hc
    rw [h] at hnot
    exact absurd hnot (by simp)

theorem avoids_isControlOrSpace {s : Scheme} (h : ofText? s = some s) :
    Text.Avoids Text.isControlOrSpace s :=
  avoids_of_ofText? h fun _ ↦ isSchemeChar_of_isControlOrSpace

theorem avoids_isBreak {s : Scheme} (h : ofText? s = some s) : Text.Avoids Text.isBreak s :=
  (avoids_isControlOrSpace h).mono fun _ ↦ Text.isControlOrSpace_of_isBreak

theorem avoids_colon {s : Scheme} (h : ofText? s = some s) : Text.Avoids (· == ':') s :=
  avoids_of_ofText? h fun c hc ↦ by
    rw [eq_of_beq hc]
    rfl

end Scheme

/-! ## Writing a reference -/

namespace Text

/-- What stands behind a delimiter, with it. -/
def withDelimiter (delimiter : Char) : Option Text → Text
  | none => []
  | some t => delimiter :: t

section WithDelimiter

variable {delimiter : Char}

theorem withDelimiter_eq_nil_iff {part : Option Text} :
    withDelimiter delimiter part = [] ↔ part = none := by
  cases part with
  | none => exact iff_of_true rfl rfl
  | some t => exact iff_of_false (List.cons_ne_nil _ _) (Option.some_ne_none _)

theorem avoids_withDelimiter {p : Char → Bool} (hdelimiter : p delimiter = false)
    {part : Option Text} (h : ∀ t, part = some t → Avoids p t) :
    Avoids p (withDelimiter delimiter part) := by
  cases part with
  | none => exact avoids_nil
  | some t => exact avoids_cons.mpr ⟨hdelimiter, h t rfl⟩

theorem cut_withDelimiter {t : Text} (h : Avoids (· == delimiter) t) (rest : Option Text) :
    cut (· == delimiter) (t ++ withDelimiter delimiter rest) = (t, rest) := by
  cases rest with
  | none => rw [withDelimiter, List.append_nil, cut_of_avoids h]
  | some rest => exact cut_append h (beq_self_eq_true delimiter)

end WithDelimiter

end Text

namespace Reference

/-- A scheme, a body, a query and a fragment, written one behind the other. -/
def written (s : Scheme) (body : Text) (query fragment : Option Text) : Text :=
  s ++ ':' :: (body ++ (Text.withDelimiter '?' query ++ Text.withDelimiter '#' fragment))

variable {s : Scheme} {body : Text} {query fragment : Option Text}

theorem splitScheme_written (hs : Scheme.ofText? s = some s) (rest : Text) :
    splitScheme (s ++ ':' :: rest) = (some s, rest) := by
  rw [splitScheme, Text.cut_append (Scheme.avoids_colon hs) (by rfl)]
  simp only [Text.withoutBreaks_of_avoids (Scheme.avoids_isBreak hs), hs]

/-- Nothing is trimmed off the front of a scheme. -/
theorem trim_written (hs : Scheme.ofText? s = some s)
    (hlast : ∀ c ∈ (written s body query fragment).getLast?, Text.isControlOrSpace c = false) :
    Text.trim Text.isControlOrSpace (written s body query fragment) =
      written s body query fragment := by
  refine Text.trim_eq_self (fun c hc ↦ ?_) hlast
  have havoids := Scheme.avoids_isControlOrSpace hs
  obtain ⟨d, t, rfl⟩ := List.exists_cons_of_ne_nil (Scheme.ofText?_eq_some hs).2.2.2
  rw [← Option.some.inj hc]
  exact havoids d List.mem_cons_self

/-- **A reference is cut into the parts it was written with.** -/
theorem ofText_written (hs : Scheme.ofText? s = some s)
    (hbody : Text.Avoids (fun c ↦ c == '?' || c == '#') body)
    (hquery : ∀ q, query = some q → Text.Avoids (fun c ↦ Text.isBreak c || c == '#') q)
    (hfragment : ∀ f, fragment = some f → Text.Avoids Text.isBreak f)
    (hlast : ∀ c ∈ (written s body query fragment).getLast?, Text.isControlOrSpace c = false) :
    ofText (written s body query fragment) = ⟨some s, body, query, fragment⟩ := by
  have hquestion : Text.Avoids (· == '?') body := hbody.mono fun c hc ↦ by simp [hc]
  have hnumber : Text.Avoids (· == '#') (body ++ Text.withDelimiter '?' query) := by
    refine Text.avoids_append.mpr ⟨hbody.mono fun c hc ↦ by simp [hc], ?_⟩
    exact Text.avoids_withDelimiter rfl fun q hq ↦ (hquery q hq).mono fun c hc ↦ by simp [hc]
  have hqueryBreaks : query.map Text.withoutBreaks = query := by
    refine (Option.map_congr fun q hq ↦ Text.withoutBreaks_of_avoids ?_).trans Option.map_id'
    exact (hquery q hq).mono fun c hc ↦ by simp [hc]
  have hfragmentBreaks : fragment.map Text.withoutBreaks = fragment :=
    (Option.map_congr fun f hf ↦ Text.withoutBreaks_of_avoids (hfragment f hf)).trans
      Option.map_id'
  -- the last delimiter is looked for first: the number sign, then the question mark
  rw [ofText, trim_written hs hlast, written, splitScheme_written hs, ← List.append_assoc]
  simp only [Text.cut_withDelimiter hnumber, Text.cut_withDelimiter hquestion, hqueryBreaks,
    hfragmentBreaks]

/-! ## Reading a reference -/

theorem ofText?_of_splitScheme {t : Text} (h : (splitScheme t).1 = some s) :
    Scheme.ofText? s = some s := by
  rw [splitScheme] at h
  split at h
  · exact absurd h (by simp)
  · split at h
    · exact absurd h (by simp)
    · rename_i found hfound
      cases h
      exact Scheme.ofText?_ofText? hfound

theorem splitScheme_suffix (t : Text) : (splitScheme t).2 <:+ t := by
  rw [splitScheme]
  split
  · exact List.suffix_refl t
  · rename_i front rest hcut
    split
    · exact List.suffix_refl t
    · exact Text.cut_suffix (by rw [hcut])

theorem trim_subset (p : Char → Bool) (t : Text) : Text.trim p t ⊆ t := by
  intro c hc
  rw [Text.trim, List.mem_reverse] at hc
  have hfront := (List.dropWhile_suffix p).subset hc
  rw [List.mem_reverse] at hfront
  exact (List.dropWhile_suffix p).subset hfront

/-- A reference is made of what stands behind its scheme. -/
theorem ofText_eq (t : Text) :
    ofText t =
      { scheme := (splitScheme (Text.trim Text.isControlOrSpace t)).1
        body := (Text.cut (· == '?')
          (Text.cut (· == '#') (splitScheme (Text.trim Text.isControlOrSpace t)).2).1).1
        query := (Text.cut (· == '?')
          (Text.cut (· == '#') (splitScheme (Text.trim Text.isControlOrSpace t)).2).1).2.map
            Text.withoutBreaks
        fragment := (Text.cut (· == '#')
          (splitScheme (Text.trim Text.isControlOrSpace t)).2).2.map Text.withoutBreaks } := rfl

theorem ofText?_of_scheme {t : Text} (h : (ofText t).scheme = some s) :
    Scheme.ofText? s = some s :=
  ofText?_of_splitScheme h

theorem avoids_body (t : Text) : Text.Avoids (fun c ↦ c == '?' || c == '#') (ofText t).body := by
  rw [ofText_eq]
  refine Text.Avoids.or (Text.avoids_cut _ _) fun c hc ↦ ?_
  exact Text.avoids_cut (· == '#') _ c (Text.mem_of_mem_cut hc)

theorem body_subset (t : Text) : (ofText t).body ⊆ t := by
  intro c hc
  rw [ofText_eq] at hc
  exact trim_subset _ t
    ((splitScheme_suffix _).subset (Text.mem_of_mem_cut (Text.mem_of_mem_cut hc)))

/-- Without a query and a fragment the body ends where the text was trimmed. -/
theorem getLast?_plain_body {t : Text} (hquery : (ofText t).query = none)
    (hfragment : (ofText t).fragment = none) :
    ∀ c ∈ (ofText t).plain.body.getLast?, Text.isControlOrSpace c = false := by
  rw [ofText_eq] at hquery hfragment
  simp only [Option.map_eq_none_iff] at hquery hfragment
  rw [Text.cut_eq_none hfragment] at hquery
  have hbody : (ofText t).body = (splitScheme (Text.trim Text.isControlOrSpace t)).2 := by
    rw [ofText_eq]
    simp only [Text.cut_eq_none hfragment, Text.cut_eq_none hquery]
  have hsuffix := splitScheme_suffix (Text.trim Text.isControlOrSpace t)
  intro c hc
  rw [plain, hbody] at hc
  generalize (splitScheme (Text.trim Text.isControlOrSpace t)).2 = rest at hc hsuffix
  obtain ⟨front, hfront⟩ := hsuffix
  cases hrest : rest.getLast? with
  | none =>
    rw [List.getLast?_eq_none_iff.mp hrest] at hc
    exact absurd hc (by simp)
  | some d =>
    have hd : Text.isControlOrSpace d = false := by
      refine Text.getLast?_trim t d ?_
      rw [← hfront, List.getLast?_append, hrest]
      rfl
    have hbreak : Text.isBreak d = false := by
      refine Bool.eq_false_iff.mpr fun hb ↦ ?_
      rw [Text.isControlOrSpace_of_isBreak hb] at hd
      exact absurd hd (by simp)
    rw [Text.getLast?_withoutBreaks hrest hbreak] at hc
    rwa [← Option.some.inj hc]

end Reference

end UrlCalculus
