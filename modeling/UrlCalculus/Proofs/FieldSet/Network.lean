import UrlCalculus.Proofs.FieldSet.NormalForm
import UrlCalculus.Proofs.Url.Network

/-!
# Field sets put into network URLs

What a field set makes of a network URL, part by part. The new scheme depends on the old one and on
the protocol alone, the path on the old path and the pathname, and so on; only the port depends on
more, namely on the new scheme and on the host, behind which there may be another port. That fields
are put in place one after the other is of no account otherwise, and neither are fields that are
refused.
-/

namespace UrlCalculus

namespace Url

section TryField

variable {α : Type} {set : Url → Text → Option Url} {u : Url} {k : α → Url} {x : α}

/-- A field that may be refused. -/
theorem tryField_of_map {g : Text → Option α} (hx : k x = u) (h : ∀ t, set u t = (g t).map k)
    (field : Option String) :
    u.tryField set field = k ((field.bind fun s ↦ g s.toList).getD x) := by
  cases field with
  | none => exact hx.symm
  | some s =>
    rw [tryField, h, Option.bind_some]
    cases g s.toList with
    | none => exact hx.symm
    | some y => rfl

/-- A field that is always taken. -/
theorem tryField_of_some {g : Text → α} (hx : k x = u) (h : ∀ t, set u t = some (k (g t)))
    (field : Option String) :
    u.tryField set field = k ((field.map fun s ↦ g s.toList).getD x) := by
  cases field with
  | none => exact hx.symm
  | some s =>
    rw [tryField, h]
    rfl

end TryField

section OneField

variable {s : Scheme} {a : Authority} {segments : List Text} {query fragment : Option Text}

theorem tryField_setScheme_onNetwork (hs : s.isNetwork = true) (ha : a.WellFormed s)
    (hhost : a.host ≠ .none) (field : Option String) :
    let s' := (field.bind fun t ↦ Scheme.network? t.toList).getD s
    (onNetwork s a segments query fragment).tryField setScheme field =
      onNetwork s' { a with port := withoutDefault s' a.port } segments query fragment := by
  refine tryField_of_map ?_ (setScheme_onNetwork hs hhost) field
  rw [ha.port_written]

theorem tryField_setUsername_onNetwork (hs : s.isNetwork = true) (hhost : a.host ≠ .none)
    (field : Option String) :
    (onNetwork s a segments query fragment).tryField setUsername field =
      onNetwork s { a with
        username := (field.map fun t ↦ Text.percentEncode .userinfo t.toList).getD a.username }
        segments query fragment :=
  tryField_of_some (k := fun username ↦ onNetwork s { a with username } segments query fragment)
    rfl (setUsername_onNetwork hs hhost) field

theorem tryField_setPassword_onNetwork (hs : s.isNetwork = true) (hhost : a.host ≠ .none)
    (field : Option String) :
    (onNetwork s a segments query fragment).tryField setPassword field =
      onNetwork s { a with
        password := (field.map fun t ↦ Text.percentEncode .userinfo t.toList).getD a.password }
        segments query fragment :=
  tryField_of_some (k := fun password ↦ onNetwork s { a with password } segments query fragment)
    rfl (setPassword_onNetwork hs hhost) field

theorem tryField_setHost_onNetwork (hs : s.isNetwork = true) (host : String) :
    let found := (newHost? s host.toList).getD (a.host, none)
    (onNetwork s a segments query fragment).tryField setHost (some host) =
      onNetwork s { a with host := found.1, port := found.2.getD a.port } segments query
        fragment :=
  tryField_of_map (x := (a.host, none))
    (k := fun found ↦ onNetwork s { a with host := found.1, port := found.2.getD a.port } segments
      query fragment) rfl (setHost_onNetwork hs) (some host)

theorem tryField_setPort_onNetwork (hs : s.isNetwork = true) (hhost : a.host ≠ .none)
    (field : Option String) :
    (onNetwork s a segments query fragment).tryField setPort field =
      onNetwork s { a with
        port := (field.bind fun t ↦ newPort? s t.toList).getD a.port } segments query fragment :=
  tryField_of_map (k := fun port ↦ onNetwork s { a with port } segments query fragment) rfl
    (setPort_onNetwork hs hhost) field

theorem tryField_setPath_onNetwork (hs : s.isNetwork = true) (field : Option String) :
    (onNetwork s a segments query fragment).tryField setPath field =
      onNetwork s a ((field.map fun t ↦ newSegments t.toList).getD segments) query fragment :=
  tryField_of_some (k := fun segments ↦ onNetwork s a segments query fragment) rfl
    (setPath_onNetwork hs) field

end OneField

end Url

namespace FieldSet

/-! ## What fields make of parts -/

def schemeOver (f : FieldSet) (s : Scheme) : Scheme :=
  (f.protocol.bind fun t ↦ Scheme.network? t.toList).getD s

/-- The host, and the port that stands behind it if there is one. -/
def hostOver (host : String) (s : Scheme) (old : Host) : Host × Option (Option PortNumber) :=
  (Url.newHost? s host.toList).getD (old, none)

/-- The port in its own field counts more than the one behind the host. -/
def portOver (f : FieldSet) (host : String) (s : Scheme) (a : Authority) : Option PortNumber :=
  (f.port.bind fun p ↦ Url.newPort? s p.toString.toList).getD
    ((hostOver host s a.host).2.getD (withoutDefault s a.port))

/-- The authority in a URL with the new scheme. -/
def authorityOver (f : FieldSet) (host : String) (s : Scheme) (a : Authority) : Authority where
  username := (f.username.map fun t ↦ Text.percentEncode .userinfo t.toList).getD a.username
  password := (f.password.map fun t ↦ Text.percentEncode .userinfo t.toList).getD a.password
  host := (hostOver host s a.host).1
  port := f.portOver host s a

def segmentsOver (f : FieldSet) (segments : List Text) : List Text :=
  (f.pathname.map fun t ↦ Url.newSegments t.toList).getD segments

def queryOver (f : FieldSet) (query : Option Text) : Option Text :=
  match f.searchParams, f.search with
  | some pairs, _ => Url.newQuery (encodedParams pairs)
  | none, some search => Url.newQuery search.toList
  | none, none => query

/-- An empty fragment is not applied. -/
def fragmentOver (f : FieldSet) (fragment : Option Text) : Option Text :=
  match f.hash with
  | none => fragment
  | some hash => if hash = "" then fragment else Url.newFragment hash.toList

/-- The URL that a field set makes of a network URL with the given parts. -/
def urlOver (f : FieldSet) (host : String) (s : Scheme) (a : Authority) (segments : List Text)
    (query fragment : Option Text) : Url :=
  .onNetwork (f.schemeOver s) (f.authorityOver host (f.schemeOver s) a) (f.segmentsOver segments)
    (f.queryOver query) (f.fragmentOver fragment)

section Apply

variable {f : FieldSet} {host : String} {s : Scheme} {a : Authority} {segments : List Text}
  {query fragment : Option Text}

theorem isNetwork_schemeOver (f : FieldSet) (hs : s.isNetwork = true) :
    (f.schemeOver s).isNetwork = true := by
  rw [schemeOver]
  cases h : f.protocol.bind fun t ↦ Scheme.network? t.toList with
  | none => exact hs
  | some s' =>
    obtain ⟨t, -, ht⟩ := Option.bind_eq_some_iff.mp h
    exact Scheme.isNetwork_of_network? ht

theorem host_hostOver_ne_none (host : String) (hs : s.isNetwork = true) {old : Host}
    (hold : old ≠ .none) : (hostOver host s old).1 ≠ .none := by
  rw [hostOver]
  cases h : Url.newHost? s host.toList with
  | none => exact hold
  | some found => exact Url.host_ne_none_of_newHost? hs h

theorem applySearch_onNetwork (f : FieldSet) (hs : s.isNetwork = true) :
    f.applySearch (.onNetwork s a segments query fragment) =
      .onNetwork s a segments (f.queryOver query) fragment := by
  rw [applySearch, queryOver]
  cases f.searchParams with
  | some pairs => exact Url.setQuery_onNetwork hs _
  | none =>
    cases f.search with
    | some search => exact Url.setQuery_onNetwork hs _
    | none => rfl

theorem applyHash_onNetwork (f : FieldSet) :
    f.applyHash (.onNetwork s a segments query fragment) =
      .onNetwork s a segments query (f.fragmentOver fragment) := by
  rw [applyHash, fragmentOver]
  cases f.hash with
  | none => rfl
  | some hash =>
    by_cases hempty : hash = ""
    · subst hempty
      rfl
    · simp only [hempty, if_false]
      exact Url.setFragment_onNetwork _

/-- **Put into a network URL, each field has its effect on its own part.** -/
theorem applyTo_onNetwork (f : FieldSet) (host : String) (hs : s.isNetwork = true)
    (ha : a.WellFormed s) (hhost : a.host ≠ .none) :
    f.applyTo host (.onNetwork s a segments query fragment) =
      f.urlOver host s a segments query fragment := by
  have hs' := f.isNetwork_schemeOver hs
  rw [applyTo, Url.tryField_setScheme_onNetwork hs ha hhost]
  change f.applyHash (f.applySearch ((((((Url.onNetwork (f.schemeOver s) _ _ _ _).tryField _
    _).tryField _ _).tryField _ _).tryField _ _).tryField _ _)) = _
  rw [Url.tryField_setUsername_onNetwork hs', Url.tryField_setPassword_onNetwork hs',
    Url.tryField_setHost_onNetwork hs', Url.tryField_setPort_onNetwork hs',
    Url.tryField_setPath_onNetwork hs', applySearch_onNetwork f hs', applyHash_onNetwork,
    Option.bind_map]
  · rfl
  · exact host_hostOver_ne_none host hs' hhost
  · exact hhost
  · exact hhost

theorem dotFree_segmentsOver (f : FieldSet) (h : ∀ x ∈ segments, Path.DotFree x) :
    ∀ x ∈ f.segmentsOver segments, Path.DotFree x := by
  rw [segmentsOver]
  cases f.pathname with
  | none => exact h
  | some t => exact Url.dotFree_of_mem_newSegments t.toList

theorem wellFormed_urlOver (f : FieldSet) (host : String) (hs : s.isNetwork = true)
    (hu : (Url.onNetwork s a segments query fragment).WellFormed) :
    (f.urlOver host s a segments query fragment).WellFormed := by
  obtain ⟨hwf, hvalid⟩ := hu.of_onNetwork hs
  have hover := wellFormed_applyTo f host hu
  rwa [applyTo_onNetwork f host hs hwf hvalid.ne_none] at hover

section Update

variable {base : String}

/-- An update of a network URL with a host, and what is read back from it: everything that the
fields make, but for the host. -/
theorem update_onNetwork (hbase : Url.ofString base = .ok (.onNetwork s a segments query fragment))
    (hs : s.isNetwork = true) (hhost : f.resolvedHost? = some host) :
    f.update base = .ok (f.urlOver host s a segments query fragment).href ∧
      Url.ofString (f.urlOver host s a segments query fragment).href =
        (hostOver host (f.schemeOver s) a.host).1.reread true >>= fun h ↦
          .ok (.onNetwork (f.schemeOver s)
            { f.authorityOver host (f.schemeOver s) a with host := h } (f.segmentsOver segments)
            (f.queryOver query) (f.fragmentOver fragment)) := by
  have hu := Url.wellFormed_of_parse hbase
  have hdots := Url.dotFree_of_parse hbase fun hfile ↦
    absurd (hfile.symm.trans (Scheme.isFile_of_isNetwork hs)) (by simp)
  obtain ⟨hwf, hvalid⟩ := hu.of_onNetwork hs
  constructor
  · simp only [update, hhost, hbase, applyTo_onNetwork f host hs hwf hvalid.ne_none]
  · rw [Url.ofString, Url.toList_href, urlOver,
      Url.parse_text_onNetwork (f.isNetwork_schemeOver hs) (f.wellFormed_urlOver host hs hu)
        (f.dotFree_segmentsOver hdots)]
    rfl

/-- A host that the mapping of domain names leaves alone is read back too. -/
theorem ofString_href_urlOver
    (hbase : Url.ofString base = .ok (.onNetwork s a segments query fragment))
    (hs : s.isNetwork = true) (hhost : f.resolvedHost? = some host)
    (hname : ∀ t, (hostOver host (f.schemeOver s) a.host).1 = .name t →
      Domain.toAscii? t = some t) :
    Url.ofString (f.urlOver host s a segments query fragment).href =
      .ok (f.urlOver host s a segments query fragment) := by
  have hover := f.wellFormed_urlOver host hs (Url.wellFormed_of_parse hbase)
  have hvalid := (hover.of_onNetwork (f.isNetwork_schemeOver hs)).2
  have hself := (Host.reread_eq_ok_iff hvalid).mpr fun _ ↦ hname
  rw [(update_onNetwork hbase hs hhost).2]
  exact congrArg (· >>= _) hself

end Update

end Apply

end FieldSet

end UrlCalculus
