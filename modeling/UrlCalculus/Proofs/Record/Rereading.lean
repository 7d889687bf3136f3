import UrlCalculus.Proofs.FieldSet.NormalForm
import UrlCalculus.Record

/-!
# Reading the whole of a record

The whole of a record, read again, gives the same record when it is read back as the URL that it was
written from. Of the five things that this takes a URL that was read has two already: the mark in
front of its path and a host for its password. The mapping of domain names has to leave its host
alone, and outside file URLs this is all.

In the path of a file URL two things can be left that are read in another way the second time. Empty
segments at the root are dropped after drives were settled, so that a drive which stood behind them
can come to the root behind a host. And a break parts a drive from what follows it, dots or not, but
breaks are not written.
-/

namespace UrlCalculus

namespace Url

variable {u : Url} {t : Text}

/-- What it takes for a URL that was read to be read back. The mapping of domain names leaves its
host alone. A file URL has no segment that stands for one or two dots, and no drive behind a
host. -/
structure Rereadable (u : Url) : Prop where
  name : u.scheme.isSpecial = true → ∀ t, u.host = .name t → Domain.toAscii? t = some t
  dotFree : u.scheme.isFile = true → ∀ x ∈ u.path.segmentList, Path.DotFree x
  drive : u.scheme.isFile = true → u.host ≠ .none →
    ∀ x ∈ u.path.segmentList.head?, Path.isDrive x = false

/-- A URL that was read is settled when it is rereadable. -/
theorem settled_iff_of_parse (h : parse none t = .ok u) : u.Settled ↔ u.Rereadable := by
  constructor
  · intro hs
    exact ⟨hs.name, fun _ ↦ hs.dotFree, hs.drive⟩
  · intro hr
    have hdots : ∀ x ∈ u.path.segmentList, Path.DotFree x := by
      cases hfile : u.scheme.isFile with
      | true => exact hr.dotFree hfile
      | false =>
        refine dotFree_of_parse h fun htrue ↦ ?_
        rw [hfile] at htrue
        cases htrue
    exact
      { dotMark := dotMark_of_parse h
        password := fun _ ha hnone ↦ password_of_parse h ha hnone
        name := hr.name
        dotFree := hdots
        drive := hr.drive }

/-- A URL that was read is not disguised: its path would have a mark in front. -/
theorem not_disguised_of_parse (h : parse none t = .ok u) : ¬u.Disguised := by
  rintro ⟨ha, hmark, a, rest, hp, -, -⟩
  have hneeds := dotMark_of_parse h
  rw [hmark, needsDotMark, ha, hp] at hneeds
  cases hneeds

/-- What is read from the written form of a URL that was read, and written in the same way, is that
URL. -/
theorem eq_of_parse_of_text_eq {v : Url} (h : parse none t = .ok u)
    (hv : parse none u.text = .ok v) (htext : u.text = v.text) : u = v :=
  ((wellFormed_of_parse h).eq_or_disguised hv htext).resolve_right (not_disguised_of_parse h)

end Url

namespace Record

theorem parse_of_ofString {s : String} {u : Url} (h : Url.ofString s = .ok u) :
    parse s = .ok (ofUrl u) := by
  rw [parse, h]
  rfl

/-- **The whole of a record is read as the same record exactly when its URL is rereadable.** -/
theorem parse_href_eq_ok_iff {s : String} {u : Url} (h : Url.ofString s = .ok u) :
    ∃ r, parse s = .ok r ∧ (parse r.href = .ok r ↔ u.Rereadable) := by
  refine ⟨ofUrl u, parse_of_ofString h, ?_⟩
  have hhref : Url.ofString (ofUrl u).href = Url.parse none u.text := by
    rw [Url.ofString, ofUrl, Url.toList_href]
  rw [← Url.settled_iff_of_parse h, ← (Url.wellFormed_of_parse h).parse_text_eq_ok_iff, ← hhref]
  constructor
  · intro hrecord
    rw [parse] at hrecord
    obtain ⟨v, hv, hsame⟩ := bind_eq_ok_iff.mp hrecord
    have htext : u.text = v.text :=
      Url.href_inj.mp (congrArg href (Except.ok.inj hsame)).symm
    rw [hv, ← Url.eq_of_parse_of_text_eq h (hhref.symm.trans hv) htext]
  · exact parse_of_ofString

/-- A drive in the place of a host, with a bar, and dots behind it. -/
theorem parse_href_of_drive :
    ∃ r, parse "FILE://C|/a/../%2e/b?q#f" = .ok r ∧ r.href = "file:///C:/b?q#f" ∧
      parse r.href = .ok r := by
  have h : Url.ofString "FILE://C|/a/../%2e/b?q#f" =
      .ok ⟨"file".toList, some (.ofHost .none), false, .segments [['C', ':'], ['b']], some ['q'],
        some ['f']⟩ := rfl
  obtain ⟨r, hr, hiff⟩ := parse_href_eq_ok_iff h
  have hhref : r.href = "file:///C:/b?q#f" := by
    rw [parse_of_ofString h] at hr
    cases hr
    rfl
  refine ⟨r, hr, hhref, hiff.mpr ⟨?_, ?_, ?_⟩⟩
  · rintro - t ⟨⟩
    rfl
  · decide
  · decide

/-- A drive that comes to the root behind a host when the empty segment in front of it is
dropped. -/
theorem not_parse_href_of_drive :
    ¬∀ (s : String) (r : Record), parse s = .ok r →
      (∀ u t, Url.ofString s = .ok u → u.host = .name t → Domain.toAscii? t = some t) →
      parse r.href = .ok r := by
  intro h
  have hs : Url.ofString "file://h//C:/x" =
      .ok ⟨"file".toList, some (.ofHost (.name ['h'])), false, .segments [['C', ':'], ['x']], none,
        none⟩ := rfl
  have hhref : Url.ofString "file://h/C:/x" =
      .ok ⟨"file".toList, some (.ofHost .none), false, .segments [['C', ':'], ['x']], none,
        none⟩ := rfl
  have hsame := h _ _ (parse_of_ofString hs) fun u t hu ht ↦ by
    rw [hs] at hu
    cases hu
    cases ht
    rfl
  have hhost := congrArg hostname (Except.ok.inj ((parse_of_ofString hhref).symm.trans hsame))
  exact absurd hhost (by decide)

end Record

end UrlCalculus
