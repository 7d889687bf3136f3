import UrlCalculus.Proofs.FieldSet.Network
import UrlCalculus.Proofs.Url.PutBack

/-!
# A URL taken apart and put together again

The parts that a record shows, put into another URL as a field set, make the URL that the record is
of. This holds between URLs of network schemes, whatever else stands in the URL that the parts are
put into, with two reservations. An empty query or fragment is not shown, so it cannot come back;
and no field removes a fragment, so there must be none.

Each field has its effect on its own part, and what is shown of a part stands for that part. The
host is the only part that is not just encoded text: it is read again, and the mapping of domain
names must leave it alone.
-/

namespace UrlCalculus

/-- The fields of the parts that a record shows. The host is shown without the port, which has a
field of its own, and the query as a text. -/
def Record.fieldSet (r : Record) : FieldSet where
  protocol := some r.protocol
  username := some r.username
  password := some r.password
  hostname := some r.hostname
  port := some (.text r.port)
  pathname := some r.pathname
  search := some r.search
  hash := some r.hash

namespace FieldSet

section Parts

variable {s : Scheme} {a : Authority} {segments : List Text} {query fragment : Option Text}

/-- The field set of a network URL with the given parts. -/
abbrev ofParts (s : Scheme) (a : Authority) (segments : List Text) (query fragment : Option Text) :
    FieldSet :=
  (Record.ofUrl (.onNetwork s a segments query fragment)).fieldSet

theorem schemeOver_ofParts (hs : s.isNetwork = true) (old : Scheme) :
    (ofParts s a segments query fragment).schemeOver old = s := by
  change ((some (String.ofList (s ++ [':']))).bind fun t ↦ Scheme.network? t.toList).getD old = s
  rw [Option.bind_some, String.toList_ofList, Scheme.network?_shown hs, Option.getD_some]

theorem authorityOver_ofParts (hs : s.isNetwork = true) (ha : a.WellFormed s)
    (hvalid : a.host.Valid true) (hname : ∀ t, a.host = .name t → Domain.toAscii? t = some t)
    (old : Authority) :
    (ofParts s a segments query fragment).authorityOver (String.ofList a.host.text) s old = a := by
  have hhost (old : Host) : hostOver (String.ofList a.host.text) s old = (a.host, none) := by
    rw [hostOver, String.toList_ofList, Url.newHost?_text hs hvalid hname, Option.getD_some]
  have hport : (ofParts s a segments query fragment).portOver (String.ofList a.host.text) s old =
      a.port := by
    change ((some (Port.text (String.ofList a.portText))).bind fun p ↦
      Url.newPort? s p.toString.toList).getD _ = _
    rw [Option.bind_some, Port.toString, String.toList_ofList,
      Url.newPort?_portText ha.port_written, Option.getD_some]
  have hencoded {t : Text} (ht : Text.Avoids EncodeSet.userinfo t) :
      Text.percentEncode .userinfo (String.ofList t).toList = t := by
    rw [String.toList_ofList, Text.percentEncode_of_avoids ht]
  rw [authorityOver, hhost, hport]
  change Authority.mk (Text.percentEncode .userinfo (String.ofList a.username).toList)
    (Text.percentEncode .userinfo (String.ofList a.password).toList) a.host a.port = a
  rw [hencoded ha.username_avoids, hencoded ha.password_avoids]

theorem segmentsOver_ofParts (hs : s.isNetwork = true)
    (hu : (Url.onNetwork s a segments query fragment).WellFormed)
    (hdots : ∀ x ∈ segments, Path.DotFree x) (old : List Text) :
    (ofParts s a segments query fragment).segmentsOver old = segments := by
  change Url.newSegments (String.ofList (Path.segments segments).text).toList = segments
  rw [String.toList_ofList, Url.newSegments_text hs hu hdots]

theorem queryOver_ofParts (hne : query ≠ some [])
    (hquery : ∀ q, query = some q → Text.Avoids EncodeSet.specialQuery q) (old : Option Text) :
    (ofParts s a segments query fragment).queryOver old = query := by
  change Url.newQuery (String.ofList (Record.shownWith '?' query)).toList = query
  rw [String.toList_ofList, Url.newQuery_shown hne hquery]

/-- Nothing stands for no fragment, so there must have been none. -/
theorem fragmentOver_ofParts (hne : fragment ≠ some [])
    (hfragment : ∀ t, fragment = some t → Text.Avoids EncodeSet.fragment t) :
    (ofParts s a segments query fragment).fragmentOver none = fragment := by
  change (if String.ofList (Record.shownWith '#' fragment) = "" then none
    else Url.newFragment (String.ofList (Record.shownWith '#' fragment)).toList) = fragment
  cases fragment with
  | none => rfl
  | some t =>
    obtain ⟨c, t, rfl⟩ := List.exists_cons_of_ne_nil fun hnil ↦ hne (congrArg some hnil)
    have hshown : Record.shownWith '#' (some (c :: t)) = '#' :: c :: t := rfl
    have hne : String.ofList ('#' :: c :: t) ≠ "" := by
      exact mt String.ofList_eq_empty_iff.mp (List.cons_ne_nil _ _)
    rw [hshown, if_neg hne, String.toList_ofList, Url.newFragment_shown (hfragment _ rfl)]

end Parts

variable {u base : Url}

theorem resolvedHost?_fieldSet (h : u.host.text ≠ []) :
    (Record.ofUrl u).fieldSet.resolvedHost? = some (String.ofList u.host.text) := by
  have hne : String.ofList u.host.text ≠ "" := mt String.ofList_eq_empty_iff.mp h
  simp [resolvedHost?, Record.fieldSet, Record.ofUrl, hne]

/-- **Put into any URL of a network scheme, the parts of such a URL make that URL.** -/
theorem applyTo_fieldSet (hu : u.WellFormed) (hnetwork : u.scheme.isNetwork = true)
    (hdots : ∀ x ∈ u.path.segmentList, Path.DotFree x)
    (hname : ∀ t, u.host = .name t → Domain.toAscii? t = some t)
    (hquery : u.query ≠ some []) (hfragment : u.fragment ≠ some []) (hbase : base.WellFormed)
    (hbaseNetwork : base.scheme.isNetwork = true) (hnone : base.fragment = none) :
    (Record.ofUrl u).fieldSet.applyTo (String.ofList u.host.text) base = u := by
  obtain ⟨s, a, segments, query, fragment, rfl⟩ := hu.exists_onNetwork hnetwork
  obtain ⟨s₀, b, segments₀, query₀, _, rfl⟩ := hbase.exists_onNetwork hbaseNetwork
  cases hnone
  have hs : s.isNetwork = true := hnetwork
  have hs₀ : s₀.isNetwork = true := hbaseNetwork
  obtain ⟨ha, hvalid⟩ := hu.of_onNetwork hs
  obtain ⟨hb, hbvalid⟩ := hbase.of_onNetwork hs₀
  have hqueryAvoids : ∀ q, query = some q → Text.Avoids EncodeSet.specialQuery q := by
    intro q hq
    have havoids := hu.query_avoids q hq
    rwa [Url.querySet, if_pos (Scheme.isSpecial_of_isNetwork hnetwork)] at havoids
  have hqueryOver : (ofParts s a segments query fragment).queryOver query₀ = query :=
    queryOver_ofParts hquery hqueryAvoids query₀
  have hfragmentOver : (ofParts s a segments query fragment).fragmentOver none = fragment :=
    fragmentOver_ofParts hfragment hu.fragment_avoids
  change (ofParts s a segments query fragment).applyTo (String.ofList a.host.text)
    (.onNetwork s₀ b segments₀ query₀ none) = .onNetwork s a segments query fragment
  rw [applyTo_onNetwork _ _ hs₀ hb hbvalid.ne_none, urlOver, schemeOver_ofParts hs,
    authorityOver_ofParts hs ha hvalid hname, segmentsOver_ofParts hs hu hdots, hqueryOver,
    hfragmentOver]

/-- **Taken apart and put together again, a URL is what it was, whatever the base.** -/
theorem update_fieldSet {s b : String} {u base : Url} (hs : Url.ofString s = .ok u)
    (hnetwork : u.scheme.isNetwork = true) (hquery : u.query ≠ some [])
    (hfragment : u.fragment ≠ some [])
    (hname : ∀ t, u.host = .name t → Domain.toAscii? t = some t)
    (hb : Url.ofString b = .ok base) (hbase : base.scheme.isNetwork = true)
    (hnone : base.fragment = none) :
    ∃ r, Record.parse s = .ok r ∧ r.fieldSet.update b = .ok r.href ∧
      r.fieldSet.build = .ok r.href := by
  have hu := Url.wellFormed_of_parse hs
  have hdots := Url.dotFree_of_parse hs fun hfile ↦ by
    rw [Scheme.isFile_of_isNetwork hnetwork] at hfile
    exact absurd hfile (by simp)
  obtain ⟨a, ha, -, hvalid, -, -⟩ := hu.of_isNetwork hnetwork
  have hhost := resolvedHost?_fieldSet (u := u) (by
    rw [Url.host_eq ha]
    exact hvalid.text_ne_nil)
  have hupdate {b : String} {base : Url} (hb : Url.ofString b = .ok base)
      (hbase : base.scheme.isNetwork = true) (hnone : base.fragment = none) :
      (Record.ofUrl u).fieldSet.update b = .ok (Record.ofUrl u).href := by
    rw [update, hhost]
    simp only [hb]
    rw [applyTo_fieldSet hu hnetwork hdots hname hquery hfragment (Url.wellFormed_of_parse hb)
      hbase hnone]
    rfl
  refine ⟨Record.ofUrl u, ?_, hupdate hb hbase hnone, ?_⟩
  · rw [Record.parse, hs]
    rfl
  · -- the base of a URL that is built is one of the bases it can be put into
    have hstandard : Url.ofString standardBase =
        .ok ⟨"https".toList, some (.ofHost (.name "host".toList)), false, .segments [[]], none,
          none⟩ := rfl
    exact hupdate hstandard rfl rfl

/-- All parts at once, put into a URL that has most of them too. -/
theorem update_fieldSet_ftp :
    ∃ r, Record.parse "http://me:pw@a.b:81/c?%41?#d" = .ok r ∧
      r.fieldSet.update "ftp://you@e:22/f/g?h" = .ok r.href ∧ r.fieldSet.build = .ok r.href := by
  have hs : Url.ofString "http://me:pw@a.b:81/c?%41?#d" =
      .ok ⟨"http".toList, some ⟨"me".toList, "pw".toList, .name "a.b".toList, some 81⟩, false,
        .segments [['c']], some "%41?".toList, some ['d']⟩ := rfl
  have hb : Url.ofString "ftp://you@e:22/f/g?h" =
      .ok ⟨"ftp".toList, some ⟨"you".toList, [], .name ['e'], some 22⟩, false,
        .segments [['f'], ['g']], some ['h'], none⟩ := rfl
  refine update_fieldSet hs rfl (by decide) (by decide) (fun t ht ↦ ?_) hb rfl rfl
  cases ht
  rfl

end FieldSet

end UrlCalculus
