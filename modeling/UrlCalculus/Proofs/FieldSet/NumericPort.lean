import UrlCalculus.Proofs.FieldSet.Network
import UrlCalculus.Proofs.FieldSet.PortText
import UrlCalculus.Proofs.Record.Rereading

/-!
# Numbers as ports

A number is put into a URL as the text that it has in JSON, and a port is read off the front of a
text. So the port that a number gives is the number at the front of its text: an integer gives
itself, a number with a fraction its whole part, and one with an exponent its leading digit. A
number with a sign gives none, and neither does a number that is too large for a port; then the URL
has the port that it would have had without the field.
-/

namespace UrlCalculus

namespace FieldSet

/-- The fields but for the port. -/
def withoutPort (f : FieldSet) : FieldSet := { f with port := none }

variable {f : FieldSet} {host base : String} {s : Scheme} {a : Authority} {n : Number}

/-- The port of a number, or the one that there is without it. -/
theorem portOver_number (hport : f.port = some (.number n)) :
    f.portOver host s a =
      (n.front?.bind (Url.portOfNat? s)).getD (f.withoutPort.portOver host s a) := by
  rw [portOver, hport, Option.bind_some, Port.toString, Url.newPort?_text]
  rfl

/-- What shows of the port of a number. -/
theorem port_ofUrl_number {h : Host} {segments : List Text} {query fragment : Option Text}
    (hport : f.port = some (.number n)) :
    let shown (f : FieldSet) := (Record.ofUrl
      (.onNetwork s { f.authorityOver host s a with host := h } segments query fragment)).port
    (∀ p : PortNumber, n.front? = some p.val →
        (some p = s.defaultPort? → shown f = "") ∧
        (some p ≠ s.defaultPort? → shown f = String.ofList (Text.decimal p))) ∧
      ((∀ p : PortNumber, n.front? ≠ some p.val) → shown f = shown f.withoutPort) := by
  intro shown
  have hover : f.portOver host s a =
      (n.front?.bind (Url.portOfNat? s)).getD (f.withoutPort.portOver host s a) :=
    portOver_number hport
  constructor
  · intro p hp
    rw [hp, Option.bind_some, Url.portOfNat?_val, Option.getD_some] at hover
    obtain ⟨hempty, hwritten⟩ := Record.port_ofUrl_onNetwork
      (a := { f.authorityOver host s a with host := h }) hover segments query fragment
    exact ⟨fun hdefault ↦ hempty (.inr hdefault), fun hdefault ↦ hwritten p rfl hdefault⟩
  · intro hnone
    have hfront : n.front?.bind (Url.portOfNat? s) = none := by
      rw [Option.bind_eq_none_iff]
      intro k hk
      exact dif_neg fun hlt ↦ hnone ⟨k, hlt⟩ hk
    rw [hfront, Option.getD_none] at hover
    change String.ofList (Authority.portText ⟨_, _, h, f.portOver host s a⟩) =
      String.ofList (Authority.portText ⟨_, _, h, f.withoutPort.portOver host s a⟩)
    rw [hover]
    rfl

/-- **A number gives the port at the front of its text, or none at all.** An integer below `2¹⁶` is
the number at the front itself, so it is applied exactly. -/
theorem port_of_update_number {u : Url} (hbase : Url.ofString base = .ok u)
    (hnetwork : u.scheme.isNetwork = true) (hhost : f.resolvedHost? = some host)
    (hport : f.port = some (.number n)) :
    (∀ p : PortNumber, n.EqualsNat p.val → n.front? = some p.val) ∧
    ∃ href bare, f.update base = .ok href ∧ f.withoutPort.update base = .ok bare ∧
      ((∀ t, (f.applyTo host u).host = .name t → Domain.toAscii? t = some t) →
        ∃ v w, Url.ofString href = .ok v ∧ Url.ofString bare = .ok w) ∧
      ∀ v w, Url.ofString href = .ok v → Url.ofString bare = .ok w →
        v.scheme = w.scheme ∧
        (∀ p : PortNumber, n.front? = some p.val →
          (some p = v.scheme.defaultPort? → (Record.ofUrl v).port = "") ∧
          (some p ≠ v.scheme.defaultPort? →
            (Record.ofUrl v).port = String.ofList (Text.decimal p))) ∧
        ((∀ p : PortNumber, n.front? ≠ some p.val) →
          (Record.ofUrl v).port = (Record.ofUrl w).port) := by
  have hu := Url.wellFormed_of_parse hbase
  obtain ⟨s, a, segments, query, fragment, rfl⟩ := hu.exists_onNetwork hnetwork
  have hs : s.isNetwork = true := hnetwork
  obtain ⟨hwf, hvalid⟩ := hu.of_onNetwork hs
  obtain ⟨hupdate, hback⟩ := update_onNetwork hbase hs hhost
  obtain ⟨hupdate', hback'⟩ := update_onNetwork (f := f.withoutPort) hbase hs hhost
  have hexact (p : PortNumber) (hp : n.EqualsNat p.val) : n.front? = some p.val :=
    Number.front?_of_equalsNat hp (p.isLt.trans (by decide))
  refine ⟨hexact, _, _, hupdate, hupdate', ?_, ?_⟩
  · intro hname
    rw [applyTo_onNetwork f host hs hwf hvalid.ne_none] at hname
    exact ⟨_, _, ofString_href_urlOver hbase hs hhost hname,
      ofString_href_urlOver hbase hs hhost hname⟩
  · intro v w hv hw
    obtain ⟨h, hh, hv⟩ := bind_eq_ok_iff.mp (hback.symm.trans hv)
    obtain ⟨h', hh', hw⟩ := bind_eq_ok_iff.mp (hback'.symm.trans hw)
    cases hv
    cases hw
    have hsame : h = h' := Except.ok.inj (hh.symm.trans hh')
    subst hsame
    exact ⟨rfl, port_ofUrl_number hport⟩

/-- The number 8081½. -/
def halfPort : Number := .binary ⟨false, 16163 <<< 39, 1034, by decide⟩

theorem not_equalsNat_halfPort (m : Nat) : ¬halfPort.EqualsNat m := by
  rintro ⟨-, hunits⟩
  have hmod := congrArg (· % Binary64.unitsPerOne) hunits
  simp only [Nat.mul_mod_left] at hmod
  exact absurd hmod (by decide +kernel)

/-- A half is cut off. -/
theorem port_of_update_halfPort :
    let f : FieldSet := { host := some "h", port := some (.number halfPort) }
    ∃ href bare v w, f.update "http://a:8080/" = .ok href ∧
      f.withoutPort.update "http://a:8080/" = .ok bare ∧ Url.ofString href = .ok v ∧
      Url.ofString bare = .ok w ∧ (Record.ofUrl v).port = "8081" ∧
      (Record.ofUrl w).port = "8080" := by
  intro f
  have hbase : Url.ofString "http://a:8080/" =
      .ok ⟨"http".toList, some ⟨[], [], .name ['a'], some 8080⟩, false, .segments [[]], none,
        none⟩ := rfl
  obtain ⟨-, href, bare, hupdate, hbare, -, hports⟩ :=
    port_of_update_number (f := f) (n := halfPort) hbase rfl rfl rfl
  have hupdate' : f.update "http://a:8080/" = .ok "http://h:8081/" := by decide +kernel
  have hbare' : f.withoutPort.update "http://a:8080/" = .ok "http://h:8080/" := by
    decide +kernel
  cases hupdate.symm.trans hupdate'
  cases hbare.symm.trans hbare'
  have hv : Url.ofString "http://h:8081/" =
      .ok ⟨"http".toList, some ⟨[], [], .name ['h'], some 8081⟩, false, .segments [[]], none,
        none⟩ := rfl
  have hw : Url.ofString "http://h:8080/" =
      .ok ⟨"http".toList, some ⟨[], [], .name ['h'], some 8080⟩, false, .segments [[]], none,
        none⟩ := rfl
  obtain ⟨-, hfront, -⟩ := hports _ _ hv hw
  have hhalf : halfPort.front? = some (8081 : PortNumber).val := by decide +kernel
  have hport := (hfront 8081 hhalf).2 (by decide)
  exact ⟨_, _, _, _, hupdate, hbare, hv, hw, hport, rfl⟩

/-- A number that is no integer gives a port. -/
theorem not_port_equalsNat :
    ¬∀ (f : FieldSet) (base host href bare : String) (n : Number) (u v w : Url),
      Url.ofString base = .ok u → u.scheme.isNetwork = true → f.resolvedHost? = some host →
      f.port = some (.number n) → f.update base = .ok href → f.withoutPort.update base = .ok bare →
      Url.ofString href = .ok v → Url.ofString bare = .ok w →
      (∃ m, n.EqualsNat m ∧ (Record.ofUrl v).port = String.ofList (Text.decimal m)) ∨
        (∃ p : PortNumber, n.EqualsNat p.val ∧ v.scheme.defaultPort? = some p ∧
          (Record.ofUrl v).port = "") ∨
        (Record.ofUrl v).port = (Record.ofUrl w).port := by
  intro h
  have hupdate : FieldSet.update { host := some "h", port := some (.number halfPort) }
      "http://a:8080/" = .ok "http://h:8081/" := by decide +kernel
  rcases h _ "http://a:8080/" _ _ _ _ _ _ _ rfl rfl rfl rfl hupdate rfl rfl rfl with
    ⟨m, hm, -⟩ | ⟨p, hp, -⟩ | hsame
  · exact not_equalsNat_halfPort m hm
  · exact not_equalsNat_halfPort p hp
  · exact absurd hsame (by decide)

end FieldSet

end UrlCalculus
