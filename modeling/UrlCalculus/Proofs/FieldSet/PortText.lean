import UrlCalculus.Proofs.Json.NumberText
import UrlCalculus.Proofs.Url.Network
import UrlCalculus.FieldSet.Basic
import UrlCalculus.Record

/-!
# What the text of a port stands for

A new port is read off the front of a text, up to the first character that is no digit. Of a text
of digits, and of a number that is written like one, that is all of it.
-/

namespace UrlCalculus

namespace Text

theorem avoids_isBreak_of_isDigit {t : Text} (h : ∀ c ∈ t, c.isDigit = true) :
    Avoids isBreak t := by
  intro c hc
  have hdigit := h c hc
  by_contra hbreak
  rw [Bool.not_eq_false, isBreak, Bool.or_eq_true, Bool.or_eq_true, beq_iff_eq, beq_iff_eq,
    beq_iff_eq] at hbreak
  rcases hbreak with (rfl | rfl) | rfl <;> exact absurd hdigit (by decide)

end Text

namespace Url

variable {s : Scheme} {k : Nat}

/-- The port with a number, if that is small enough. -/
def portOfNat? (s : Scheme) (k : Nat) : Option (Option PortNumber) :=
  if h : k < 65536 then some (withoutDefault s (some ⟨k, h⟩)) else none

theorem portOfNat?_val (s : Scheme) (p : PortNumber) :
    portOfNat? s p.val = some (withoutDefault s (some p)) :=
  dif_pos p.isLt

/-- Digits are read up to the end of the text, or to a point or an exponent. -/
theorem newPort?_of_number? {digits rest : Text} (hdigits : Text.number? 10 digits = some k)
    (hrest : ∀ c ∈ rest.head?, c = '.' ∨ c = 'e') :
    newPort? s (digits ++ rest) = portOfNat? s k := by
  have hall := Text.isDigit_of_number? hdigits
  have hwithout : Text.withoutBreaks (digits ++ rest) = digits ++ Text.withoutBreaks rest := by
    rw [Text.withoutBreaks, List.filter_append, ← Text.withoutBreaks,
      Text.withoutBreaks_of_avoids (Text.avoids_isBreak_of_isDigit hall)]
    rfl
  have hstop : ∀ c ∈ (Text.withoutBreaks rest).head?, c.isDigit = false := by
    cases rest with
    | nil => simp
    | cons c rest =>
      rcases hrest c rfl with rfl | rfl <;> simp [Text.withoutBreaks_cons, Text.isBreak]
  rw [newPort?, hwithout, readNewPort, readPortDigits, Text.takeWhile_append_stop hall hstop,
    Text.dropWhile_append_stop hall hstop, hdigits, portOfNat?]
  by_cases hk : k < 65536
  · simp only [hk, dite_true]
  · simp only [hk, dite_false]

theorem newPort?_of_leads {t : Text} (h : Text.Leads k t) : newPort? s t = portOfNat? s k := by
  obtain ⟨rest, rfl, hrest⟩ := h
  exact newPort?_of_number? (Text.number?_decimal k) hrest

/-- The port that the text of a number stands for. -/
theorem newPort?_text (s : Scheme) (n : Number) :
    newPort? s n.text.toList = n.front?.bind (portOfNat? s) := by
  cases hfront : n.front? with
  | none =>
    obtain ⟨t, ht⟩ := Number.text_of_front?_eq_none hfront
    have hsign : ("-" ++ t).toList = '-' :: t.toList := String.toList_append
    rw [ht, hsign]
    rfl
  | some k =>
    obtain ⟨m, hleads, hm⟩ := Number.exists_leads_text hfront
    rw [newPort?_of_leads hleads, Option.bind_some]
    rcases hm with rfl | ⟨hlarge, hlarge'⟩
    · rfl
    · rw [portOfNat?, portOfNat?, dif_neg (by omega), dif_neg (by omega)]

end Url

namespace Port

/-- The port that a field stands for: none if its text is empty, and else the integer that it
denotes, which is written in digits, or is a number without a sign. -/
inductive Denotes : Port → Option PortNumber → Prop
  | empty : Denotes (.text "") none
  | digits {t : String} {p : PortNumber} (h : Text.number? 10 t.toList = some p.val) :
    Denotes (.text t) (some p)
  | number {n : Number} {p : PortNumber} (h : n.EqualsNat p.val) : Denotes (.number n) (some p)

theorem Denotes.newPort?_eq {p : Port} {port : Option PortNumber} (h : p.Denotes port)
    (s : Scheme) : Url.newPort? s p.toString.toList = some (withoutDefault s port) := by
  cases h with
  | empty =>
    rw [withoutDefault_none]
    rfl
  | @digits t p h =>
    have hread : Url.newPort? s (t.toList ++ []) = Url.portOfNat? s p.val :=
      Url.newPort?_of_number? h (by simp)
    rw [List.append_nil, Url.portOfNat?_val] at hread
    exact hread
  | @number n p h =>
    have hlt := p.isLt
    have hfront := Number.front?_of_equalsNat h (by omega)
    rw [toString, Url.newPort?_text, hfront, Option.bind_some, Url.portOfNat?_val]

end Port

/-- How a port shows in a record: not at all if there is none, or if it is the default one. -/
theorem Record.port_ofUrl_onNetwork {s : Scheme} {a : Authority} {port : Option PortNumber}
    (ha : a.port = withoutDefault s port) (segments : List Text) (query fragment : Option Text) :
    (port = none ∨ port = s.defaultPort? →
        (ofUrl (.onNetwork s a segments query fragment)).port = "") ∧
      ∀ k, port = some k → port ≠ s.defaultPort? →
        (ofUrl (.onNetwork s a segments query fragment)).port =
          String.ofList (Text.decimal k) := by
  have hshown : (ofUrl (.onNetwork s a segments query fragment)).port =
      String.ofList a.portText := rfl
  rw [hshown, Authority.portText, ha, withoutDefault]
  constructor
  · rintro (rfl | rfl)
    · rw [ite_self]
    · rw [if_pos rfl]
  · rintro k rfl hdefault
    rw [if_neg hdefault]

end UrlCalculus
