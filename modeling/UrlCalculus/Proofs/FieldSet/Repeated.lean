import UrlCalculus.Proofs.FieldSet.Groups

/-!
# Updating a URL twice

The fields of a set go into a URL in a fixed order, and a field that the URL does not take leaves it
as it is. What a field meets at its turn is not what the next update will find there, so a field
that was refused may be taken when the URL that comes out is updated with the same fields. This
happens in three ways, and in no other. Credentials, or a network scheme for a file URL, are refused
for want of a host, and then there is one; and a host is not removed for a port, which then goes.
Where none of them happens the URL is steady, and a second update with the same fields gives it
back.

The fields are put into the string that came out, not into the URL, so this is about updates that
are read back as the URL that was made; `Url.Settled` tells which ones are.
-/

namespace UrlCalculus

namespace Url

variable {u v : Url} {t : Text}

/-- A URL without a host that was read has no credentials. -/
theorem credentials_of_parse (h : parse none t = .ok u) (hnone : u.hasHost = false) :
    u.credentials = ([], []) := by
  rw [credentials]
  cases ha : u.authority with
  | none => rfl
  | some a =>
    have hhost : a.host = .none := by
      by_contra hne
      rw [hasHost_iff.mpr (by rwa [host_eq ha])] at hnone
      cases hnone
    have husername := (((wellFormed_of_parse h).authority_wellFormed a ha).hostless hhost).1
    rw [Option.getD_some, husername, password_of_parse h ha hhost]

/-- What is read from a written URL and written in the same way is that URL, if no authority has
come along. -/
theorem WellFormed.eq_of_text_eq (hu : u.WellFormed) (h : parse none u.text = .ok v)
    (htext : u.text = v.text) (hnone : u.authority = none → v.authority = none) : u = v := by
  rcases hu.eq_or_disguised h htext with rfl | ⟨ha, hmark, a, rest, hp, hwf, hpassword⟩
  · rfl
  · have hspecial := hu.isSpecial_eq_false ha
    have hread := (hu.exposed hspecial hp hwf).parse_text_of_settled
      (hu.settled_exposed hspecial hmark hp hpassword)
    rw [text_exposed ha hmark hp, h] at hread
    have hsome := hnone ha
    rw [Except.ok.inj hread] at hsome
    cases hsome

end Url

namespace FieldSet

variable {f : FieldSet} {host : String} {u v w : Url}

/-! ## All fields -/

theorem applyCredentials_eq_self_iff_of_sameFront (h : Url.SameFront u v) :
    f.applyCredentials v = v ↔ f.applyCredentials u = u := by
  constructor
  · intro hfixed
    rw [h.symm.eq_withRest, applyCredentials_withRest, hfixed]
  · intro hfixed
    rw [h.eq_withRest, applyCredentials_withRest, hfixed]

theorem applyHost_eq_self_iff_of_sameFront (h : Url.SameFront u v) :
    f.applyHost host v = v ↔ f.applyHost host u = u := by
  constructor
  · intro hfixed
    rw [h.symm.eq_withRest, applyHost_withRest f host h.symm.isRootless, hfixed]
  · intro hfixed
    rw [h.eq_withRest, applyHost_withRest f host h.isRootless, hfixed]

/-- All fields together leave a URL as it is when each group does. -/
theorem applyTo_eq_self_iff (hw : w.WellFormed) (hrest : f.applyRest w = w) :
    f.applyTo host w = w ↔ w.tryField Url.setScheme f.protocol = w ∧ f.applyCredentials w = w ∧
      f.applyHost host w = w := by
  rw [applyTo_eq]
  constructor
  · intro h
    have hfront := sameFront_applyRest f (f.applyHost host (f.applyCredentials
      (w.tryField Url.setScheme f.protocol)))
    rw [h] at hfront
    have hscheme : w.tryField Url.setScheme f.protocol = w := by
      rw [hw.tryField_setScheme_eq_self_iff, hfront.scheme, scheme_applyHost,
        scheme_applyCredentials]
    rw [hscheme] at hfront
    have hboth : f.applyHost host (f.applyCredentials w) = w := calc
      f.applyHost host (f.applyCredentials w)
          = f.applyHost host (f.applyCredentials (w.withRest w.path w.query w.fragment)) := rfl
      _ = (f.applyHost host (f.applyCredentials w)).withRest w.path w.query w.fragment := by
        rw [applyCredentials_withRest, applyHost_withRest f host (by rw [path_applyCredentials])]
      _ = w := hfront.eq_withRest.symm
    have hcredentials : f.applyCredentials w = w := by
      rw [applyCredentials_eq_self_iff, ← f.credentials_applyHost host, hboth]
    rw [hcredentials] at hboth
    exact ⟨hscheme, hcredentials, hboth⟩
  · rintro ⟨hscheme, hcredentials, hhost⟩
    rw [hscheme, hcredentials, hhost, hrest]

/-- What it takes for a second update with the same fields to change nothing. Where a host has come
along, there is no network scheme for what was a file URL, and no user name or password for what was
another one; and where the text for the host stands for none, the host is still needed. -/
structure Steady (f : FieldSet) (host : String) (u : Url) : Prop where
  protocol : u.isFile = true → u.hasHost = false → (f.applyTo host u).hasHost = true →
    ∀ t, f.protocol = some t → Scheme.network? t.toList = none
  credentials : u.isFile = false → u.hasHost = false → (f.applyTo host u).hasHost = true →
    (∀ t, f.username = some t → t = "") ∧ ∀ t, f.password = some t → t = ""
  -- The host setter asks for a user name or a port and forgets a password. So where nothing but a
  -- password is left, the host goes the second time because of the setter, and not because of the
  -- order of the fields.
  host : (f.applyTo host u).hasHost = true → ∀ port,
    (f.applyTo host u).readNewHost (Text.withoutBreaks host.toList) = some (.none, port) →
      (f.applyTo host u).needsHost port = true

/-- **All fields, put in place again, change nothing exactly when the URL is steady under them.** -/
theorem applyTo_applyTo_iff (f : FieldSet) (host : String) (hu : u.WellFormed)
    (hhostless : u.hasHost = false → u.credentials = ([], [])) :
    f.applyTo host (f.applyTo host u) = f.applyTo host u ↔ f.Steady host u := by
  have hw : (f.applyTo host u).WellFormed := wellFormed_applyTo f host hu
  have happly := applyTo_eq f host u
  -- the URL in between, which the last group takes
  generalize hy : f.applyHost host (f.applyCredentials (u.tryField Url.setScheme f.protocol)) = y
    at happly
  have hfront : Url.SameFront y (f.applyTo host u) := by
    rw [happly]
    exact sameFront_applyRest f y
  have hrest : f.applyRest (f.applyTo host u) = f.applyTo host u := by
    rw [happly] at hw ⊢
    exact applyRest_applyRest f hw
  have hscheme := Url.wellFormed_tryField Url.setScheme Url.wellFormed_setScheme f.protocol hu
  have hywf : y.WellFormed := hy ▸ wellFormed_applyHost (wellFormed_applyCredentials hscheme)
  rw [applyTo_eq_self_iff hw hrest,
    hu.tryField_setScheme_again_iff hw f.protocol (by
      rw [hfront.scheme, ← hy, scheme_applyHost, scheme_applyCredentials]),
    applyCredentials_eq_self_iff_of_sameFront hfront, applyHost_eq_self_iff_of_sameFront hfront,
    applyCredentials_again_iff hy (by
      rwa [Url.hasHost_tryField_setScheme, Url.credentials_tryField_setScheme]),
    applyHost_again_iff hy hywf, Url.hasHost_tryField_setScheme]
  have hread := Url.readNewHost_congr hfront.scheme (Text.withoutBreaks host.toList)
  constructor
  · rintro ⟨hprotocol, hcredentials, hhost⟩
    refine ⟨hprotocol, fun hfile hnone hhas ↦ ?_, fun hhas port hp ↦ ?_⟩
    · rw [hfront.hasHost_eq] at hhas
      exact hcredentials ((Url.isFile_tryField_setScheme hnone f.protocol).trans hfile) hnone hhas
    · rw [hfront.hasHost_eq] at hhas
      rw [hfront.needsHost_eq]
      exact hhost hhas port (hread.symm.trans hp)
  · rintro ⟨hprotocol, hcredentials, hhost⟩
    refine ⟨hprotocol, fun hfile hnone hhas ↦ ?_, fun hhas port hp ↦ ?_⟩
    · exact hcredentials ((Url.isFile_tryField_setScheme hnone f.protocol).symm.trans hfile) hnone
        (hfront.hasHost_eq.trans hhas)
    · rw [← hfront.needsHost_eq]
      exact hhost (hfront.hasHost_eq.trans hhas) port (hread.trans hp)

/-! ## An authority stays -/

theorem isSome_authority_applyCredentials (f : FieldSet) (u : Url) :
    (f.applyCredentials u).authority.isSome = u.authority.isSome := by
  cases h : u.admitsCredentials with
  | false => rw [applyCredentials_of_not_admits h]
  | true =>
    obtain ⟨a, ha⟩ := Url.exists_authority_of_hasHost (Url.hasHost_of_admitsCredentials h)
    rw [applyCredentials_of_admits h ha, ha]
    rfl

theorem isSome_authority_applyPort (f : FieldSet) (u : Url) :
    (f.applyPort u).authority.isSome = u.authority.isSome := by
  rcases f.applyPort_cases u with h | ⟨-, p, h, -⟩ <;> rw [h]
  exact Option.isSome_map

theorem isSome_authority_applyHost (f : FieldSet) (host : String)
    (hu : u.authority.isSome = true) : (f.applyHost host u).authority.isSome = true := by
  rcases f.applyHost_cases host u with ⟨h, port, -, -, -, hy⟩ | hrefused
  · rw [hy, isSome_authority_applyPort]
    rfl
  · rw [hrefused u rfl rfl fun _ _ h ↦ h, isSome_authority_applyPort, hu]

/-- No field removes an authority. -/
theorem isSome_authority_applyTo (f : FieldSet) (host : String)
    (hu : u.authority.isSome = true) : (f.applyTo host u).authority.isSome = true := by
  rw [applyTo_eq, (sameFront_applyRest f _).authority]
  refine isSome_authority_applyHost f host ?_
  rw [isSome_authority_applyCredentials]
  rcases u.tryField_setScheme_eq_or f.protocol with h | ⟨s, -, h⟩ <;> rw [h]
  · exact hu
  · rw [Url.putScheme, Option.isSome_map, hu]

/-! ## Updating twice -/

/-- **An update that is read back as the URL that was made is its own update with the same fields
exactly when the base is steady under them.** -/
theorem update_update_eq_ok_iff {base href : String} (h : f.update base = .ok href) :
    ∃ host u, f.resolvedHost? = some host ∧ Url.ofString base = .ok u ∧
      href = (f.applyTo host u).href ∧
      (Url.ofString href = .ok (f.applyTo host u) →
        (f.update href = .ok href ↔ f.Steady host u)) := by
  obtain ⟨host, u, hhost, hbase, rfl⟩ := of_update h
  refine ⟨host, u, hhost, hbase, rfl, fun hread ↦ ?_⟩
  have hu := Url.wellFormed_of_parse hbase
  have hagain : f.update (f.applyTo host u).href =
      .ok (f.applyTo host (f.applyTo host u)).href := by
    rw [update, hhost, hread]
  rw [hagain, Except.ok.injEq, Url.href_inj,
    ← applyTo_applyTo_iff f host hu (Url.credentials_of_parse hbase)]
  refine ⟨fun htext ↦ ?_, fun h ↦ by rw [h]⟩
  rw [Url.ofString, Url.toList_href, ← htext] at hread
  have hw := wellFormed_applyTo f host (wellFormed_applyTo f host hu)
  refine hw.eq_of_text_eq hread htext fun hnone ↦ ?_
  by_contra hne
  have hsome := isSome_authority_applyTo f host (Option.isSome_iff_ne_none.mpr hne)
  rw [hnone] at hsome
  cases hsome

/-- A new host and a user name where there was a host before. -/
theorem update_update_withUsername :
    (empty.withHost "h" |>.withUsername "u").update "foo://a/p" = .ok "foo://u@h/p" ∧
      (empty.withHost "h" |>.withUsername "u").update "foo://u@h/p" = .ok "foo://u@h/p" := by
  have hupdate : (empty.withHost "h" |>.withUsername "u").update "foo://a/p" =
      .ok "foo://u@h/p" := by decide
  obtain ⟨host, u, hhost, hbase, -, hagain⟩ := update_update_eq_ok_iff hupdate
  obtain rfl : "h" = host := Option.some.inj hhost
  have hread : Url.ofString "foo://a/p" = .ok
      ⟨"foo".toList, some (.ofHost (.name ['a'])), false, .segments [['p']], none, none⟩ := by
    decide
  obtain rfl := Except.ok.inj (hread.symm.trans hbase)
  refine ⟨hupdate, (hagain (by decide)).mpr ⟨nofun, nofun, fun _ port hempty ↦ ?_⟩⟩
  have hname : Url.readNewHost (applyTo (empty.withHost "h" |>.withUsername "u") "h"
      ⟨"foo".toList, some (.ofHost (.name ['a'])), false, .segments [['p']], none, none⟩)
        (Text.withoutBreaks "h".toList) = some (.name ['h'], none) := by decide
  rw [hname] at hempty
  cases hempty

/-- Credentials that were refused come along with the host that was there before them. -/
theorem not_update_update_of_username :
    ¬∀ (f : FieldSet) (base href : String), f.update base = .ok href →
      f.update href = .ok href := by
  intro h
  have hupdate : (empty.withHost "h" |>.withUsername "u").update "foo:/p" =
      .ok "foo://h/p" := by decide
  have hagain : (empty.withHost "h" |>.withUsername "u").update "foo://h/p" =
      .ok "foo://u@h/p" := by decide
  have hfixed := h _ _ _ hupdate
  rw [hagain] at hfixed
  exact absurd (Except.ok.inj hfixed) (by decide)

example : (empty.withHost "h" |>.withProtocol "ws").update "file:///p" = .ok "file://h/p" ∧
    (empty.withHost "h" |>.withProtocol "ws").update "file://h/p" = .ok "ws://h/p" := by decide

example : (empty.withHost "/" |>.withPort (.text "")).update "foo://h:80/p" = .ok "foo://h/p" ∧
    (empty.withHost "/" |>.withPort (.text "")).update "foo://h/p" = .ok "foo:///p" := by decide

end FieldSet

end UrlCalculus
