import UrlCalculus.Host
import UrlCalculus.Proofs.Host.Address
import UrlCalculus.Proofs.Outcome
import UrlCalculus.Proofs.Text.Encoding
import UrlCalculus.Proofs.Text.Utf8

/-!
# Hosts that were read

What is known of a host once it was read, and what becomes of it when its written form is read
again. Addresses and the names of URLs that are not special come back as they are. The name of a
special URL comes back exactly when the mapping of domain names leaves it alone.
-/

namespace UrlCalculus

namespace Domain

theorem avoids_denied_of_toAscii? {t name : Text} (h : toAscii? t = some name) :
    Text.Avoids denied name := by
  have hchecked {mapped : Text}
      (hmapped : (if mapped.any denied then none else some mapped) = some name) :
      Text.Avoids denied name := by
    split at hmapped
    · exact absurd hmapped (by simp)
    · rename_i hany
      cases hmapped
      exact Text.any_eq_false_iff.mp (Bool.eq_false_iff.mpr hany)
  rw [toAscii?] at h
  split at h
  · exact hchecked h
  · obtain ⟨mapped, -, hmapped⟩ := Option.bind_eq_some_iff.mp h
    exact hchecked hmapped

/-- A plain name in lower case is its own form in ASCII. -/
theorem toAscii?_eq_self {t : Text} (hplain : isPlain t = true) (hlower : lowerCase t = t)
    (h : Text.Avoids denied t) : toAscii? t = some t := by
  rw [toAscii?, if_pos hplain, hlower]
  exact if_neg (Bool.eq_false_iff.mp (Text.any_eq_false_iff.mpr h))

theorem toAscii?_ipv4 (a : Ipv4) : toAscii? a.text = some a.text := by
  have hlower : lowerCase a.text = a.text := by
    have h : Text.Avoids (fun c ↦ c.toLower != c) a.text :=
      Ipv4.avoids_text (by decide) (by decide) a
    calc a.text.map Char.toLower = a.text.map id :=
          List.map_congr_left fun c hc ↦ by simpa using h c hc
      _ = a.text := List.map_id a.text
  have hascii : Idna.isAscii a.text = true := by
    have h : Text.Avoids (fun c ↦ !decide (c.toNat < 0x80)) a.text :=
      Ipv4.avoids_text (by decide) (by decide) a
    exact List.all_eq_true.mpr fun c hc ↦ by simpa using h c hc
  have hace (label : Text) (hlabel : label ∈ Idna.labels a.text) :
      Idna.acePrefix.isPrefixOf label = false := by
    have h : Text.Avoids (· == 'x') a.text := Ipv4.avoids_text (by decide) (by decide) a
    cases label with
    | nil => rfl
    | cons c label =>
      have hc := h c (Text.mem_of_mem_pieces hlabel List.mem_cons_self)
      rw [beq_eq_false_iff_ne] at hc
      simp [Idna.acePrefix, List.isPrefixOf, Ne.symm hc]
  refine toAscii?_eq_self ?_ hlower (Ipv4.avoids_text (by decide) (by decide) a)
  rw [isPlain, hlower, hascii, Bool.true_and, List.all_eq_true]
  intro label hlabel
  rw [hace label hlabel]
  rfl

end Domain

namespace Host

/-- What reading a host gives. In a special URL a name is neither empty nor a number at its end;
elsewhere there are no IPv4 addresses. -/
def Valid (isSpecial : Bool) : Host → Prop
  | .name t =>
    if isSpecial then t ≠ [] ∧ Text.Avoids Domain.denied t ∧ Ipv4.endsInNumber t = false
    else Text.Avoids forbidden t ∧ Text.Avoids EncodeSet.controls t
  | .ipv4 _ => isSpecial = true
  | .ipv6 _ => True

/-- What a name avoids in both kinds of URLs. -/
theorem Valid.avoids_name {isSpecial : Bool} {t : Text} (hvalid : (name t).Valid isSpecial)
    {c : Char} (hdenied : Domain.denied c = true) (hforbidden : forbidden c = true) :
    Text.Avoids (· == c) t := by
  cases isSpecial with
  | true => exact hvalid.2.1.beq hdenied
  | false => exact hvalid.1.beq hforbidden

theorem Valid.ne_none {h : Host} (hvalid : h.Valid true) : h ≠ .none := by
  rintro rfl
  exact hvalid.1 rfl

theorem isNone_eq_false_iff {h : Host} : h.isNone = false ↔ h ≠ .none := by
  rw [isNone, decide_eq_false_iff_not]

/-! ## Reading -/

theorem valid_of_bracketed {t : Text} {h : Host} (hread : bracketed t = .ok h)
    (isSpecial : Bool) : h.Valid isSpecial := by
  rw [bracketed] at hread
  split at hread
  · cases hread
    exact trivial
  · exact absurd hread (by simp)

theorem valid_of_special {t : Text} {h : Host} (hread : special t = .ok h) : h.Valid true := by
  rw [special] at hread
  split at hread
  · exact valid_of_bracketed hread true
  · split at hread
    · exact absurd hread (by simp)
    · exact absurd hread (by simp)
    · rename_i domain hne hdomain
      obtain ⟨name, -, hascii⟩ := Option.bind_eq_some_iff.mp hdomain
      split at hread
      · split at hread
        · cases hread
          exact rfl
        · exact absurd hread (by simp)
      · rename_i hnumber
        cases hread
        exact ⟨hne, Domain.avoids_denied_of_toAscii? hascii, by simpa using hnumber⟩

theorem valid_of_nonspecial {t : Text} {h : Host} (hread : nonspecial t = .ok h) :
    h.Valid false := by
  rw [nonspecial] at hread
  split at hread
  · exact valid_of_bracketed hread false
  · split at hread
    · exact absurd hread (by simp)
    · rename_i hany
      cases hread
      have hallowed := Text.any_eq_false_iff.mp (Bool.eq_false_iff.mpr hany)
      exact ⟨Text.avoids_percentEncode (by decide) fun c hc _ ↦ hallowed c hc,
        Text.avoids_percentEncode_self Text.avoids_encodingChars_controls t⟩

/-! ## The written form -/

/-- What the written form of a host avoids, brackets and colons apart. -/
theorem Valid.avoids_text {isSpecial : Bool} {h : Host} (hvalid : h.Valid isSpecial)
    {p : Char → Bool} (hdenied : ∀ c, p c = true → Domain.denied c = true)
    (hforbidden : ∀ c, p c = true → isSpecial = false →
      forbidden c = true ∨ EncodeSet.controls c = true)
    (haddress : Text.Avoids p "[]:.0123456789abcdef".toList) : Text.Avoids p h.text := by
  have hdigits : ∀ d < 16, p (Nat.digitChar d) = false := by
    have hmem : ∀ d < 16, Nat.digitChar d ∈ "[]:.0123456789abcdef".toList := by decide
    exact fun d hd ↦ haddress _ (hmem d hd)
  have hchar (c : Char) (hc : c ∈ "[]:.0123456789abcdef".toList) : p c = false := haddress c hc
  cases h with
  | name t =>
    cases isSpecial with
    | true => exact hvalid.2.1.mono hdenied
    | false =>
      intro c hc
      cases hp : p c with
      | false => rfl
      | true =>
        rcases hforbidden c hp rfl with hset | hset
        · exact absurd hc (hvalid.1.not_mem hset)
        · exact absurd hc (hvalid.2.not_mem hset)
  | ipv4 a =>
    exact Ipv4.avoids_text (hchar '.' (by decide)) (fun d hd ↦ hdigits d (by omega)) a
  | ipv6 a =>
    have ha : Text.Avoids p a.text := Ipv6.avoids_text (hchar ':' (by decide)) hdigits a
    simp only [text, Text.avoids_append, Text.avoids_cons, Text.avoids_nil, and_true]
    exact ⟨⟨hchar '[' (by decide), ha⟩, hchar ']' (by decide)⟩

theorem bracketed_text (a : Ipv6) : bracketed (Host.ipv6 a).text = .ok (.ipv6 a) := by
  have hlast : (Host.ipv6 a).text.getLast? = some ']' := by
    rw [text, List.cons_append, List.getLast?_cons, List.getLast?_concat]
    rfl
  have hinner : ((Host.ipv6 a).text.drop 1).dropLast = a.text := by
    rw [text, List.cons_append, List.drop_succ_cons, List.drop_zero, List.dropLast_concat]
  rw [bracketed, hlast, hinner, Ipv6.parse?_text]
  rfl

theorem head?_text_of_avoids {t : Text} {p : Char → Bool} (h : Text.Avoids p t) {c : Char}
    (hc : p c = true) : t.head? ≠ some c := by
  intro hhead
  exact h.not_mem hc (List.mem_of_mem_head? hhead)

/-- A host of a special URL that is no IPv6 address is what its domain name stands for. -/
theorem special_of_avoids {t : Text} (h : Text.Avoids Domain.denied t) :
    special t =
      match Domain.toAscii? t with
      | .none => .error .idna
      | some [] => .error .emptyHost
      | some domain =>
        if Ipv4.endsInNumber domain then
          match Ipv4.parse? domain with
          | some a => .ok (.ipv4 a)
          | .none => .error .invalidIpv4Address
        else .ok (.name domain) := by
  have hpercent : '%' ∉ t := h.not_mem (by decide)
  have hdomain :
      (Text.ofUtf8? (Text.percentDecode t)).bind Domain.toAscii? = Domain.toAscii? t := by
    rw [Text.percentDecode_of_not_mem hpercent, Text.ofUtf8?_utf8, Option.bind_some]
  rw [special, if_neg (head?_text_of_avoids h (by decide))]
  exact hdomain ▸ rfl

theorem special_text_ipv4 (a : Ipv4) : special (Host.ipv4 a).text = .ok (.ipv4 a) := by
  rw [text, special_of_avoids (Ipv4.avoids_text (by decide) (by decide) a), Domain.toAscii?_ipv4]
  split
  · rename_i h
    exact absurd h (by simp)
  · rename_i h
    exact absurd (Option.some.inj h) a.text_ne_nil
  · rename_i domain _ h
    cases h
    rw [if_pos (Ipv4.endsInNumber_text a), Ipv4.parse?_text]

theorem special_text_ipv6 (a : Ipv6) : special (Host.ipv6 a).text = .ok (.ipv6 a) := by
  rw [special, if_pos (by rfl), bracketed_text]

/-- **A host of a special URL comes back exactly when the mapping of domain names leaves it
alone.** -/
theorem special_text_eq_ok_iff {h : Host} (hvalid : h.Valid true) :
    special h.text = .ok h ↔ ∀ t, h = .name t → Domain.toAscii? t = some t := by
  cases h with
  | ipv4 a => simp [special_text_ipv4]
  | ipv6 a => simp [special_text_ipv6]
  | name t =>
    obtain ⟨hne, hdenied, hnumber⟩ := hvalid
    rw [text, special_of_avoids hdenied]
    constructor
    · rintro h t' ⟨⟩
      split at h
      · exact absurd h (by simp)
      · exact absurd h (by simp)
      · rename_i domain _ hdomain
        split at h
        · split at h <;> cases h
        · cases h
          exact hdomain
    · -- the name is not empty and does not end in a number, so it is taken as a name again
      intro h
      rw [h t rfl]
      split
      · rename_i hnone
        exact absurd hnone (by simp)
      · rename_i hnil
        exact absurd (Option.some.inj hnil) hne
      · rename_i domain _ hdomain
        cases hdomain
        rw [if_neg (by simp [hnumber])]

/-- **A host of any other URL comes back.** -/
theorem nonspecial_text {h : Host} (hvalid : h.Valid false) : nonspecial h.text = .ok h := by
  cases h with
  | ipv4 a => cases hvalid
  | ipv6 a => rw [nonspecial, if_pos (by rfl), bracketed_text]
  | name t =>
    obtain ⟨hforbidden, hcontrols⟩ := hvalid
    have hany : ¬t.any forbidden = true :=
      Bool.eq_false_iff.mp (Text.any_eq_false_iff.mpr hforbidden)
    rw [nonspecial, text, if_neg (head?_text_of_avoids hforbidden (by decide)), if_neg hany,
      Text.percentEncode_of_avoids hcontrols]

end Host

end UrlCalculus
