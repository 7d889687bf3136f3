import UrlCalculus.Proofs.FieldSet.Frame

/-!
# Updating a URL in two steps

Two field sets with one hostname, put into a network URL one after the other, make the URL that
their fields make together, the later field counting where both have one. In between, the URL is
written down and read again, and the host is put in place twice.

## What has to be kept together

Each field has its effect on its own part, so the order in which fields of different parts come does
not matter. What does matter is that a field can be without effect: a scheme and a port may be
refused, and an empty fragment is not applied. The field of the earlier set is then in force, which
it is not when the later one has taken its place before anything was applied.

Two pairs of fields meet in one part. A scheme drops its default port, so a port must not come ahead
of the scheme it is read in; and search parameters win over a search that is given with them, but
not over one that comes later. A port behind the host would be put in place again by the second
step, so there must be none.
-/

namespace UrlCalculus

namespace Url

variable {s s' : Scheme}

theorem readHost_of_isNetwork (hs : s.isNetwork = true) (hs' : s'.isNetwork = true) (t : Text) :
    readHost s' t = readHost s t := by
  rw [readHost, readHost, Scheme.isSpecial_of_isNetwork hs, Scheme.isSpecial_of_isNetwork hs']

/-- The host of a text is the same one for every network scheme. Only a port behind it is not. -/
theorem newHost?_of_isNetwork (hs : s.isNetwork = true) (hs' : s'.isNetwork = true) {t : Text}
    (hcolon : Text.hasOuterColon false t = false) : newHost? s' t = newHost? s t := by
  have hbehind {s : Scheme} {found : Host × Option (Option PortNumber)}
      (h : newHost? s t = some found) : found.2 = none :=
    newHost?_of_not_hasOuterColon hcolon h
  have hhost : (newHost? s' t).map Prod.fst = (newHost? s t).map Prod.fst := by
    rw [newHost?, newHost?, readHost_of_isNetwork hs hs']
    split <;> rfl
  cases hfound : newHost? s t with
  | none => rwa [hfound, Option.map_none, Option.map_eq_none_iff] at hhost
  | some found =>
    rw [hfound, Option.map_some, Option.map_eq_some_iff] at hhost
    obtain ⟨found', hfound', hfst⟩ := hhost
    rw [hfound', Option.some.injEq]
    exact Prod.ext hfst ((hbehind hfound').trans (hbehind hfound).symm)

end Url

namespace FieldSet

/-! ## Merging -/

/-- The fields of both sets. Where both have one, that of the second set counts. -/
def merge (f g : FieldSet) : FieldSet where
  protocol := g.protocol.or f.protocol
  username := g.username.or f.username
  password := g.password.or f.password
  host := g.host.or f.host
  hostname := g.hostname.or f.hostname
  port := g.port.or f.port
  pathname := g.pathname.or f.pathname
  search := g.search.or f.search
  searchParams := g.searchParams.or f.searchParams
  hash := g.hash.or f.hash

/-- That nothing in the second set would have been put in place otherwise, had it been there from
the start. Fields that can be without effect are in one of the sets only; and a port does not come
ahead of a scheme, nor search parameters ahead of a search. -/
structure Mergeable (f g : FieldSet) : Prop where
  protocol : f.protocol = none ∨ g.protocol = none
  port : f.port = none ∨ g.port = none
  hash : f.hash = none ∨ g.hash = none
  scheme_port : f.port = none ∨ g.protocol = none
  query : f.searchParams = none ∨ g.search = none

section Over

variable {f g : FieldSet} {host : String} {s : Scheme} {a : Authority} {segments : List Text}
  {query fragment : Option Text}

/-- A field that may be refused, in one of two sets. -/
theorem getD_bind_or {α β : Type} {x y : Option α} (h : x = none ∨ y = none) (read : α → Option β)
    (old : β) : ((y.or x).bind read).getD old = (y.bind read).getD ((x.bind read).getD old) := by
  rcases h with rfl | rfl
  · rw [Option.or_none]
    rfl
  · rfl

/-- A field that is always taken. -/
theorem getD_map_or {α β : Type} (x y : Option α) (read : α → β) (old : β) :
    ((y.or x).map read).getD old = (y.map read).getD ((x.map read).getD old) := by
  cases y <;> rfl

theorem schemeOver_merge (h : f.Mergeable g) (s : Scheme) :
    (f.merge g).schemeOver s = g.schemeOver (f.schemeOver s) :=
  getD_bind_or h.protocol _ s

/-- A host stays when it is put in place again with another network scheme. -/
theorem hostOver_hostOver {s' : Scheme} (hs : s.isNetwork = true) (hs' : s'.isNetwork = true)
    (hcolon : Text.hasOuterColon false host.toList = false) (old : Host) :
    hostOver host s' (hostOver host s old).1 = hostOver host s' old := by
  rw [hostOver, hostOver, hostOver, Url.newHost?_of_isNetwork hs hs' hcolon]
  cases Url.newHost? s host.toList <;> rfl

/-- The port that two sets make, of which the first one leaves a port without default behind. -/
theorem portOver_merge (h : f.Mergeable g) (hcolon : Text.hasOuterColon false host.toList = false)
    (ha : withoutDefault s a.port = a.port) {b : Authority}
    (hb : b.port = f.portOver host (f.schemeOver s) a)
    (hwritten : withoutDefault (f.schemeOver s) b.port = b.port) :
    g.portOver host (g.schemeOver (f.schemeOver s)) b =
      (f.merge g).portOver host (g.schemeOver (f.schemeOver s)) a := by
  rw [portOver_of_not_hasOuterColon hcolon] at hb
  rw [portOver_of_not_hasOuterColon hcolon, portOver_of_not_hasOuterColon hcolon, merge,
    getD_bind_or h.port]
  congr 1
  rcases h.scheme_port with hport | hprotocol
  · -- the port is the old one
    rw [hb, hport]
    change withoutDefault _ (withoutDefault _ _) = withoutDefault _ _
    rcases h.protocol with hnone | hnone
    · rw [schemeOver_of_none hnone, ha]
    · rw [schemeOver_of_none hnone, withoutDefault_withoutDefault]
  · -- the scheme is the one that the port was read in
    rw [schemeOver_of_none hprotocol, hwritten, hb]

theorem authorityOver_merge (h : f.Mergeable g) (hs : s.isNetwork = true)
    (hcolon : Text.hasOuterColon false host.toList = false)
    (ha : withoutDefault s a.port = a.port)
    (hwritten : withoutDefault (f.schemeOver s) (f.portOver host (f.schemeOver s) a) =
      f.portOver host (f.schemeOver s) a) :
    g.authorityOver host (g.schemeOver (f.schemeOver s))
        (f.authorityOver host (f.schemeOver s) a) =
      (f.merge g).authorityOver host (g.schemeOver (f.schemeOver s)) a := by
  have hs' := f.isNetwork_schemeOver hs
  change Authority.mk _ _ _ _ = Authority.mk _ _ _ _
  congr 1
  · exact (getD_map_or f.username g.username _ a.username).symm
  · exact (getD_map_or f.password g.password _ a.password).symm
  · exact congrArg Prod.fst
      (hostOver_hostOver hs' (g.isNetwork_schemeOver hs') hcolon a.host)
  · exact portOver_merge h hcolon ha rfl hwritten

theorem segmentsOver_merge (f g : FieldSet) (segments : List Text) :
    g.segmentsOver (f.segmentsOver segments) = (f.merge g).segmentsOver segments :=
  (getD_map_or f.pathname g.pathname _ segments).symm

theorem queryOver_merge (h : f.Mergeable g) (query : Option Text) :
    g.queryOver (f.queryOver query) = (f.merge g).queryOver query := by
  rw [queryOver, queryOver, queryOver, merge]
  cases g.searchParams with
  | some pairs => rfl
  | none =>
    rcases h.query with hnone | hnone
    · rw [hnone]
      cases g.search <;> rfl
    · rw [hnone]
      rfl

theorem fragmentOver_merge (h : f.Mergeable g) (fragment : Option Text) :
    g.fragmentOver (f.fragmentOver fragment) = (f.merge g).fragmentOver fragment := by
  rw [fragmentOver, fragmentOver, fragmentOver, merge]
  rcases h.hash with hnone | hnone
  · rw [hnone]
    cases g.hash <;> rfl
  · rw [hnone]
    rfl

/-- **Fields put in place in two steps make what they make together.** -/
theorem urlOver_urlOver (h : f.Mergeable g) (hs : s.isNetwork = true)
    (hcolon : Text.hasOuterColon false host.toList = false)
    (hu : (Url.onNetwork s a segments query fragment).WellFormed) :
    g.urlOver host (f.schemeOver s) (f.authorityOver host (f.schemeOver s) a)
        (f.segmentsOver segments) (f.queryOver query) (f.fragmentOver fragment) =
      (f.merge g).urlOver host s a segments query fragment := by
  have ha := (hu.of_onNetwork hs).1
  have hover := ((f.wellFormed_urlOver host hs hu).of_onNetwork (f.isNetwork_schemeOver hs)).1
  rw [urlOver, urlOver, schemeOver_merge h,
    authorityOver_merge h hs hcolon ha.port_written hover.port_written, segmentsOver_merge,
    queryOver_merge h, fragmentOver_merge h]

end Over

/-- **Successive updates merge.** A network URL is updated with one field set, and the result with
another one that has the same hostname; the outcome is that of one update with the fields of both.
Of the string in between it is assumed that its host is one that the mapping of domain names leaves
alone, so that the string is read back as the URL that was written. -/
theorem update_update_eq_update_merge {f g : FieldSet} {base href host : String} {u : Url}
    (hbase : Url.ofString base = .ok u) (hnetwork : u.scheme.isNetwork = true)
    (hf : f.hostname = some host) (hg : g.hostname = some host) (hne : host ≠ "")
    (hcolon : Text.hasOuterColon false host.toList = false) (h : f.Mergeable g)
    (hname : ∀ t, (f.applyTo host u).host = .name t → Domain.toAscii? t = some t)
    (hupdate : f.update base = .ok href) :
    g.update href = (f.merge g).update base := by
  have hu := Url.wellFormed_of_parse hbase
  obtain ⟨s, a, segments, query, fragment, rfl⟩ := hu.exists_onNetwork hnetwork
  have hs : s.isNetwork = true := hnetwork
  obtain ⟨hwf, hvalid⟩ := hu.of_onNetwork hs
  have hhost : f.resolvedHost? = some host := by simp [resolvedHost?, hf, hne]
  have hhost' : g.resolvedHost? = some host := by simp [resolvedHost?, hg, hne]
  have hboth : (f.merge g).resolvedHost? = some host := by simp [resolvedHost?, merge, hg, hne]
  rw [applyTo_onNetwork f host hs hwf hvalid.ne_none] at hname
  -- what stands in between, and is read back
  have hfirst := (update_onNetwork hbase hs hhost).1
  obtain rfl := Except.ok.inj (hfirst.symm.trans hupdate)
  have hback := ofString_href_urlOver hbase hs hhost hname
  rw [(update_onNetwork hback (f.isNetwork_schemeOver hs) hhost').1,
    (update_onNetwork hbase hs hboth).1, urlOver_urlOver h hs hcolon hu]

private def earlierFields : FieldSet :=
  { hostname := some "h", password := some "pw", search := some "?q", hash := some "x" }

private def laterFields : FieldSet :=
  { hostname := some "h", protocol := some "https:", port := some (.text "81"),
    searchParams := some [("a", "b c")] }

private def partedUrl : Url :=
  .onNetwork "http".toList ⟨"me".toList, [], .name ['e'], some ⟨443, by decide⟩⟩ [['p']] none
    (some ['y'])

/-- The second step comes with a scheme and a port, although a search and a fragment are there
already. -/
theorem update_update_eq_update_merge_https :
    earlierFields.update "http://me@e:443/p#y" = .ok "http://me:pw@h:443/p?q#x" ∧
      laterFields.update "http://me:pw@h:443/p?q#x" = .ok "https://me:pw@h:81/p?a=b+c#x" ∧
      (earlierFields.merge laterFields).update "http://me@e:443/p#y" =
        .ok "https://me:pw@h:81/p?a=b+c#x" := by
  have hbase : Url.ofString "http://me@e:443/p#y" = .ok partedUrl := rfl
  have hupdate : earlierFields.update "http://me@e:443/p#y" = .ok "http://me:pw@h:443/p?q#x" := rfl
  have hagain : laterFields.update "http://me:pw@h:443/p?q#x" =
      .ok "https://me:pw@h:81/p?a=b+c#x" := rfl
  have hcolon : Text.hasOuterColon false "h".toList = false :=
    Text.hasOuterColon_eq_false (by decide) false
  have hmergeable : earlierFields.Mergeable laterFields :=
    ⟨.inl rfl, .inl rfl, .inr rfl, .inl rfl, .inl rfl⟩
  have hhost : (earlierFields.applyTo "h" partedUrl).host = .name ['h'] := rfl
  have hname : ∀ t, (earlierFields.applyTo "h" partedUrl).host = .name t →
      Domain.toAscii? t = some t := by
    intro t ht
    obtain rfl := Host.name.inj (hhost.symm.trans ht)
    rfl
  have hmerged := update_update_eq_update_merge hbase rfl rfl rfl (by decide) hcolon hmergeable
    hname hupdate
  exact ⟨hupdate, hagain, hmerged.symm.trans hagain⟩

/-- A port that comes ahead of the scheme is taken for the default one of the old scheme. -/
example :
    let f : FieldSet := { hostname := some "h", port := some (.text "80") }
    let g : FieldSet := { hostname := some "h", protocol := some "https" }
    f.update "http://h/" = .ok "http://h/" ∧ g.update "http://h/" = .ok "https://h/" ∧
      (f.merge g).update "http://h/" = .ok "https://h:80/" :=
  ⟨rfl, rfl, rfl⟩

end FieldSet

end UrlCalculus
