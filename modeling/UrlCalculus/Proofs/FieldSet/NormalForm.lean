import UrlCalculus.FieldSet.Apply
import UrlCalculus.Proofs.Url.Uniqueness
import UrlCalculus.Proofs.Url.Update

/-!
# What becomes of an updated URL that is read again

The fields of a set are put into a URL one after the other, and each of them keeps the URL
well-formed, whatever the base, the values and the fields that are refused. So the URL that comes
out is read back exactly when it is settled, and its string is resolved to itself exactly when it is
settled or disguised.

Not every one is settled. A new host leaves the mark in front of the path where it was, and takes
the place in front of the drive of a file URL; a host that is removed leaves a password behind; and
a new path gets no mark.
-/

namespace UrlCalculus

namespace Url

variable {u : Url}

theorem wellFormed_tryField (set : Url → Text → Option Url)
    (hset : ∀ {u v : Url} {t : Text}, u.WellFormed → set u t = some v → v.WellFormed)
    (field : Option String) (hu : u.WellFormed) : (u.tryField set field).WellFormed := by
  cases field with
  | none => exact hu
  | some s =>
    rw [tryField]
    cases h : set u s.toList with
    | none => exact hu
    | some v => exact hset hu h

theorem href_inj {u v : Url} : u.href = v.href ↔ u.text = v.text := by
  rw [href, href, String.ofList_inj]

theorem toList_href (u : Url) : u.href.toList = u.text := String.toList_ofList

/-- A string is resolved to itself when what is read from it is written in the same way. -/
theorem resolve_href_eq_ok_iff (u : Url) :
    resolve u.href none = .ok u.href ↔ ∃ v, parse none u.text = .ok v ∧ v.text = u.text := by
  rw [resolve, ofString, toList_href, bind_eq_ok_iff]
  simp only [pure_eq_ok, Except.ok.injEq, href_inj]

end Url

namespace FieldSet

variable {u : Url}

theorem wellFormed_applySearch (f : FieldSet) (hu : u.WellFormed) :
    (f.applySearch u).WellFormed := by
  rw [applySearch]
  split
  · exact Url.wellFormed_setQuery hu _
  · exact Url.wellFormed_setQuery hu _
  · exact hu

theorem wellFormed_applyHash (f : FieldSet) (hu : u.WellFormed) :
    (f.applyHash u).WellFormed := by
  rw [applyHash]
  split
  · exact hu
  · exact hu
  · exact Url.wellFormed_setFragment hu _

/-- **Every field keeps a URL well-formed.** -/
theorem wellFormed_applyTo (f : FieldSet) (host : String) (hu : u.WellFormed) :
    (f.applyTo host u).WellFormed := by
  have hscheme := Url.wellFormed_tryField Url.setScheme Url.wellFormed_setScheme f.protocol hu
  have husername :=
    Url.wellFormed_tryField Url.setUsername Url.wellFormed_setUsername f.username hscheme
  have hpassword :=
    Url.wellFormed_tryField Url.setPassword Url.wellFormed_setPassword f.password husername
  have hhost := Url.wellFormed_tryField Url.setHost Url.wellFormed_setHost (some host) hpassword
  have hport :=
    Url.wellFormed_tryField Url.setPort Url.wellFormed_setPort (f.port.map Port.toString) hhost
  have hpath := Url.wellFormed_tryField Url.setPath Url.wellFormed_setPath f.pathname hport
  exact wellFormed_applyHash f (wellFormed_applySearch f hpath)

/-- An update that succeeds has a host to put in place and a base to put it into. -/
theorem of_update {f : FieldSet} {base href : String} (h : f.update base = .ok href) :
    ∃ host u, f.resolvedHost? = some host ∧ Url.ofString base = .ok u ∧
      href = (f.applyTo host u).href := by
  rw [update] at h
  split at h
  · exact absurd h (by simp)
  · rename_i host hhost
    split at h
    · exact absurd h (by simp)
    · rename_i u hu
      cases h
      exact ⟨host, u, hhost, hu, rfl⟩

/-- **An update is in normal form exactly when the URL it makes is settled, or disguised as another
one that is.** The URL that is read from it is the one that was made exactly when that one is
settled. -/
theorem resolve_update_eq_ok_iff {f : FieldSet} {base href : String}
    (h : f.update base = .ok href) :
    ∃ host u, f.resolvedHost? = some host ∧ Url.ofString base = .ok u ∧
      href = (f.applyTo host u).href ∧
      (Url.ofString href = .ok (f.applyTo host u) ↔ (f.applyTo host u).Settled) ∧
      (resolve href none = .ok href ↔
        (f.applyTo host u).Settled ∨ (f.applyTo host u).Disguised) := by
  obtain ⟨host, u, hhost, hbase, rfl⟩ := of_update h
  have hwf := wellFormed_applyTo f host (Url.wellFormed_of_parse hbase)
  refine ⟨host, u, hhost, hbase, rfl, ?_, ?_⟩
  · rw [Url.ofString, Url.toList_href]
    exact hwf.parse_text_eq_ok_iff
  · exact (Url.resolve_href_eq_ok_iff _).trans hwf.text_fixed_iff

/-- A new host in front of a path without dots. -/
theorem resolve_update_withHost :
    (empty.withHost "h").update "foo:/p" = .ok "foo://h/p" ∧
      ∃ host u, (empty.withHost "h").resolvedHost? = some host ∧ Url.ofString "foo:/p" = .ok u ∧
        "foo://h/p" = ((empty.withHost "h").applyTo host u).href ∧
        (Url.ofString "foo://h/p" = .ok ((empty.withHost "h").applyTo host u) ↔
          ((empty.withHost "h").applyTo host u).Settled) ∧
        (resolve "foo://h/p" none = .ok "foo://h/p" ↔
          ((empty.withHost "h").applyTo host u).Settled ∨
            ((empty.withHost "h").applyTo host u).Disguised) :=
  ⟨by decide, resolve_update_eq_ok_iff (by decide)⟩

/-- A new host does not take the mark in front of the path away. -/
theorem not_resolve_update_of_mark :
    ¬∀ (f : FieldSet) (base href : String), f.update base = .ok href →
      resolve href none = .ok href := by
  intro h
  have hupdate : (empty.withHost "h").update "foo:/.//p" = .ok "foo://h/.//p" := by decide
  have hresolve : resolve "foo://h/.//p" none = .ok "foo://h//p" := by decide
  have hfixed := h _ _ _ hupdate
  rw [hresolve] at hfixed
  exact absurd (Except.ok.inj hfixed) (by decide)

end FieldSet

end UrlCalculus
