import UrlCalculus.Proofs.Url.Network
import UrlCalculus.Record

/-!
# What the parts of a URL stand for when they are put into another one

A part that is shown is already encoded, and it is shown with its delimiters. Where a part is
changed the delimiter is taken off and there is nothing to encode, so what is shown of a part stands
for that very part. An empty query is not shown, and what is not shown stands for none.
-/

namespace UrlCalculus

theorem Scheme.network?_shown {s : Scheme} (h : s.isNetwork = true) :
    network? (s ++ [':']) = some s := by
  have hall : ∀ entry ∈ networkSchemes, network? (entry.1 ++ [':']) = some entry.1 := by decide
  obtain ⟨port, hport⟩ := Option.isSome_iff_exists.mp h
  obtain ⟨before, after, hsplit, -⟩ := List.lookup_eq_some_iff.mp hport
  exact hall (s, port) (by rw [hsplit]; simp)

namespace Url

variable {s : Scheme}

/-! ## The host and the port -/

/-- A host that the mapping of domain names leaves alone stands for itself, without a port. -/
theorem newHost?_text {h : Host} (hs : s.isNetwork = true) (hvalid : h.Valid true)
    (hname : ∀ t, h = .name t → Domain.toAscii? t = some t) :
    newHost? s h.text = some (h, none) := by
  have hvalid' : h.Valid s.isSpecial := by
    rw [Scheme.isSpecial_of_isNetwork hs]
    exact hvalid
  have hbreaks : Text.Avoids Text.isBreak h.text :=
    hvalid.avoids_isControlOrSpace.mono fun c ↦ Text.isControlOrSpace_of_isBreak
  have hread : readHost s h.text = .ok (h, []) := by
    have hself := (Host.reread_eq_ok_iff hvalid').mpr fun _ ↦ hname
    have hrest := readHost_text hvalid' [] (by simp)
    rwa [List.append_nil, hself, ok_bind] at hrest
  rw [newHost?, Text.withoutBreaks_of_avoids hbreaks, hread]

theorem newPort?_portText {a : Authority} (ha : withoutDefault s a.port = a.port) :
    newPort? s a.portText = some a.port := by
  cases hport : a.port with
  | none =>
    rw [Authority.portText, hport]
    rfl
  | some port =>
    have hread : readPortDigits (Text.decimal port ++ []) = .ok (some port, []) :=
      readPortDigits_decimal port (by simp)
    rw [List.append_nil] at hread
    rw [hport] at ha
    rw [Authority.portText, hport, newPort?, readNewPort,
      Text.withoutBreaks_of_avoids (Text.avoids_decimal (by decide) _), hread]
    simp only [ha]

/-! ## Behind the authority -/

theorem newSegments_text {a : Authority} {segments : List Text} {query fragment : Option Text}
    (hs : s.isNetwork = true) (hu : (onNetwork s a segments query fragment).WellFormed)
    (hdots : ∀ x ∈ segments, Path.DotFree x) :
    newSegments (Path.segments segments).text = segments := by
  have hread := hu.pathAfterAuthority_text rfl (Scheme.isFile_of_isNetwork hs) hdots
  exact Path.segments.inj ((pathAfterAuthority_of_isNetwork hs _).symm.trans hread)

theorem newQuery_shown {query : Option Text} (hne : query ≠ some [])
    (hquery : ∀ q, query = some q → Text.Avoids EncodeSet.specialQuery q) :
    newQuery (Record.shownWith '?' query) = query := by
  cases query with
  | none => rfl
  | some q =>
    obtain ⟨c, t, rfl⟩ := List.exists_cons_of_ne_nil fun hnil ↦ hne (congrArg some hnil)
    have havoids := hquery _ rfl
    have hbreaks : Text.Avoids Text.isBreak (c :: t) := havoids.mono fun d hd ↦
      EncodeSet.specialQuery_of_query (EncodeSet.query_of_controls (EncodeSet.controls_of_isBreak hd))
    change some (Text.percentEncode .specialQuery (Text.withoutBreaks (c :: t))) = _
    rw [Text.withoutBreaks_of_avoids hbreaks, Text.percentEncode_of_avoids havoids]

theorem newFragment_shown {fragment : Text} (hf : Text.Avoids EncodeSet.fragment fragment) :
    newFragment ('#' :: fragment) = some fragment := by
  have hbreaks : Text.Avoids Text.isBreak fragment := hf.mono fun c hc ↦
    EncodeSet.fragment_of_controls (EncodeSet.controls_of_isBreak hc)
  change some (Text.percentEncode .fragment (Text.withoutBreaks fragment)) = _
  rw [Text.withoutBreaks_of_avoids hbreaks, Text.percentEncode_of_avoids hf]

end Url

end UrlCalculus
