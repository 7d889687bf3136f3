import UrlCalculus.Proofs.Url.RoundTrip

/-!
# What the written form determines

Two well-formed URLs with the same written form have the same scheme, query and fragment, and what
stands in between differs in one way only: where a URL without an authority has a path that begins
with two slashes and no mark in front of it, the other can have the first segment behind them as its
authority. Such a URL is disguised, and it is written like a URL that it is not.
-/

namespace UrlCalculus

/-! ## Hosts -/

namespace Host

variable {isSpecial : Bool} {h h' : Host}

theorem avoids_bracket (hvalid : h.Valid isSpecial ∨ h = .none) {t : Text} (ht : h = .name t) :
    Text.Avoids (· == '[') t := by
  rcases hvalid with hvalid | hnone
  · rw [ht] at hvalid
    exact hvalid.avoids_name rfl rfl
  · rw [hnone] at ht
    cases ht
    exact Text.avoids_nil

theorem text_ne_of_name_of_ipv4 {t : Text} {a : Ipv4}
    (hname : (name t).Valid isSpecial ∨ name t = .none) (ha : (ipv4 a).Valid isSpecial) :
    t ≠ a.text := by
  intro htext
  have hnumber : Ipv4.endsInNumber t = false := by
    rcases hname with hname | hnone
    · cases ha
      exact hname.2.2
    · cases hnone
      rfl
  rw [htext, Ipv4.endsInNumber_text] at hnumber
  exact absurd hnumber (by simp)

/-- **Hosts that are written alike are the same.** -/
theorem eq_of_text_eq (hvalid : h.Valid isSpecial ∨ h = .none)
    (hvalid' : h'.Valid isSpecial ∨ h' = .none) (htext : h.text = h'.text) : h = h' := by
  have hipv4 {a : Ipv4} (ha : (ipv4 a).Valid isSpecial ∨ ipv4 a = .none) :
      (ipv4 a).Valid isSpecial := by
    rcases ha with ha | ha
    · exact ha
    · cases ha
  have hbracket {t : Text} {a : Ipv6} (ht : Text.Avoids (· == '[') t) : t ≠ (ipv6 a).text := by
    rintro rfl
    cases (Text.avoids_cons.mp ht).1
  -- the kinds are told apart by the number at the end and by the bracket in front
  cases h with
  | name t =>
    cases h' with
    | name t' => exact congrArg name htext
    | ipv4 a => exact absurd htext (text_ne_of_name_of_ipv4 hvalid (hipv4 hvalid'))
    | ipv6 a => exact absurd htext (hbracket (avoids_bracket hvalid rfl))
  | ipv4 a =>
    cases h' with
    | name t => exact absurd htext.symm (text_ne_of_name_of_ipv4 hvalid' (hipv4 hvalid))
    | ipv4 a' =>
      have hparse := congrArg Ipv4.parse? htext
      simp only [text, Ipv4.parse?_text] at hparse
      exact congrArg ipv4 (Option.some.inj hparse)
    | ipv6 a' => exact absurd htext (hbracket (Ipv4.avoids_text (by decide) (by decide) a))
  | ipv6 a =>
    cases h' with
    | name t => exact absurd htext.symm (hbracket (avoids_bracket hvalid' rfl))
    | ipv4 a' => exact absurd htext.symm (hbracket (Ipv4.avoids_text (by decide) (by decide) a'))
    | ipv6 a' =>
      have hread := bracketed_text a
      rw [htext, bracketed_text] at hread
      exact (Except.ok.inj hread).symm

end Host

/-! ## Authorities -/

namespace Authority

variable {s : Scheme} {a b : Authority}

theorem WellFormed.valid_or_none (ha : a.WellFormed s) :
    a.host.Valid s.isSpecial ∨ a.host = .none := by
  rcases ha.host_valid with hvalid | ⟨-, hnone⟩
  · exact .inl hvalid
  · exact .inr hnone

/-- What stands behind the host. -/
def portPart (a : Authority) : Text := if a.port.isSome then ':' :: a.portText else []

theorem hostPortText_eq (a : Authority) : a.hostPortText = a.host.text ++ a.portPart := rfl

theorem WellFormed.splitHost_hostPortText (ha : a.WellFormed s) :
    splitHost s.isSpecial false a.hostPortText = (a.host.text, a.portPart) := by
  have hport : ∀ c ∈ a.portPart.head?, endsAuthority s.isSpecial c = true ∨ c = ':' := by
    intro c hc
    rw [portPart] at hc
    split at hc
    · exact .inr (Option.some.inj hc).symm
    · exact absurd hc (by simp)
  rw [hostPortText_eq]
  rcases ha.valid_or_none with hvalid | hnone
  · exact splitHost_text hvalid hport
  · rw [hnone]
    exact splitHost_stop hport

theorem port_eq_of_portPart_eq (h : a.portPart = b.portPart) : a.port = b.port := by
  rw [portPart, portPart, portText, portText] at h
  cases ha : a.port with
  | none =>
    cases hb : b.port with
    | none => rfl
    | some q =>
      rw [ha, hb] at h
      exact absurd h (by simp)
  | some p =>
    cases hb : b.port with
    | none =>
      rw [ha, hb] at h
      exact absurd h (by simp)
    | some q =>
      rw [ha, hb] at h
      have hnumber := congrArg (Text.number? 10) (List.cons.inj h).2
      simp only [Text.number?_decimal, Option.some.injEq] at hnumber
      exact congrArg some (Fin.ext hnumber)

theorem host_port_eq_of_hostPortText_eq (ha : a.WellFormed s) (hb : b.WellFormed s)
    (h : a.hostPortText = b.hostPortText) : a.host = b.host ∧ a.port = b.port := by
  have hsplit := congrArg (splitHost s.isSpecial false) h
  rw [ha.splitHost_hostPortText, hb.splitHost_hostPortText, Prod.mk.injEq] at hsplit
  exact ⟨Host.eq_of_text_eq ha.valid_or_none hb.valid_or_none hsplit.1,
    port_eq_of_portPart_eq hsplit.2⟩

theorem WellFormed.cutCredentials?_eq (ha : a.WellFormed s) :
    cutCredentials? s.isSpecial a.text =
      if a.username.isEmpty && a.password.isEmpty then none
      else some (writtenCredentials a.username a.password, a.hostPortText) := by
  have hcut := cutCredentials?_text ha (show ∀ c ∈ ([] : Text).head?, c = '/' by simp)
  rwa [List.append_nil, List.append_nil] at hcut

/-- **Authorities that are written alike are the same.** -/
theorem eq_of_text_eq (ha : a.WellFormed s) (hb : b.WellFormed s) (htext : a.text = b.text) :
    a = b := by
  have hcut := congrArg (cutCredentials? s.isSpecial) htext
  rw [ha.cutCredentials?_eq, hb.cutCredentials?_eq] at hcut
  obtain ⟨⟨husername, hpassword⟩, hhost, hport⟩ :
      (a.username = b.username ∧ a.password = b.password) ∧ a.host = b.host ∧ a.port = b.port := by
    -- either both authorities have credentials or none of them does
    split at hcut
    · rename_i haempty
      split at hcut
      · rename_i hbempty
        rw [text, text, credentialsText, credentialsText, if_pos haempty, if_pos hbempty] at htext
        rw [Bool.and_eq_true, List.isEmpty_iff, List.isEmpty_iff] at haempty hbempty
        rw [haempty.1, haempty.2, hbempty.1, hbempty.2]
        exact ⟨⟨rfl, rfl⟩, host_port_eq_of_hostPortText_eq ha hb htext⟩
      · exact absurd hcut (by simp)
    · split at hcut
      · exact absurd hcut (by simp)
      · rw [Option.some.injEq, Prod.mk.injEq] at hcut
        have hread := congrArg readCredentials hcut.1
        rw [readCredentials_written ha.username_avoids ha.password_avoids,
          readCredentials_written hb.username_avoids hb.password_avoids, Prod.mk.injEq] at hread
        exact ⟨hread, host_port_eq_of_hostPortText_eq ha hb hcut.2⟩
  obtain ⟨username, password, host, port⟩ := a
  obtain ⟨username', password', host', port'⟩ := b
  cases husername
  cases hpassword
  cases hhost
  cases hport
  rfl

end Authority

/-! ## Paths -/

namespace Path

variable {isSpecial : Bool} {ss ts : List Text}

theorem avoids_slash {x : Text} (h : Text.Avoids (segmentSet isSpecial) x) :
    Text.Avoids (· == '/') x :=
  h.mono fun c hc ↦ by simp [segmentSet, isPathSeparator, hc]

/-- **Segments that are written alike are the same.** -/
theorem segments_eq_of_text_eq (hss : ∀ x ∈ ss, Text.Avoids (· == '/') x)
    (hts : ∀ x ∈ ts, Text.Avoids (· == '/') x)
    (h : (segments ss).text = (segments ts).text) : ss = ts := by
  cases ss with
  | nil =>
    cases ts with
    | nil => rfl
    | cons y ys => cases h
  | cons x xs =>
    cases ts with
    | nil => cases h
    | cons y ys =>
      rw [text_segments_cons, text_segments_cons] at h
      have hpieces := congrArg (Text.pieces (· == '/')) (List.cons.inj h).2
      rwa [Text.pieces_join (by rfl) (List.cons_ne_nil _ _) hss,
        Text.pieces_join (by rfl) (List.cons_ne_nil _ _) hts] at hpieces

theorem avoids_dot_cons (hss : ∀ x ∈ ss, Text.Avoids (· == '/') x) :
    ∀ x ∈ ['.'] :: ss, Text.Avoids (· == '/') x :=
  List.forall_mem_cons.mpr ⟨by decide, hss⟩

theorem not_dotFree_dot : ¬DotFree ['.'] := by decide

end Path

namespace Url

variable {u v : Url}

/-! ## URLs -/

theorem WellFormed.reference_eq_of_text_eq (hu : u.WellFormed) (hv : v.WellFormed)
    (h : u.text = v.text) : u.reference = v.reference := by
  rw [← hu.ofText_text, ← hv.ofText_text, h]

/-- A URL without an authority whose path is written like an authority and a path. -/
def Disguised (u : Url) : Prop :=
  u.authority = none ∧ u.dotMark = false ∧
    ∃ (a : Authority) (rest : List Text), u.path = .segments ([] :: a.text :: rest) ∧
      a.WellFormed u.scheme ∧ (a.host = .none → a.password = [])

theorem avoids_slash_authority {s : Scheme} {a : Authority} (ha : a.WellFormed s) :
    Text.Avoids (· == '/') a.text := by
  refine ha.avoids_text (fun hvalid ↦ hvalid.avoids_endsAuthority.beq rfl) (fun c hc ↦ ?_) rfl
    rfl (by decide)
  rw [eq_of_beq hc]
  rfl

/-- Behind an authority the written form is cut at the first slash. -/
theorem authority_append_inj {s : Scheme} {a b : Authority} (ha : a.WellFormed s)
    (hb : b.WellFormed s) {t t' : Text} (ht : ∀ c ∈ t.head?, c = '/')
    (ht' : ∀ c ∈ t'.head?, c = '/') (h : a.text ++ t = b.text ++ t') : a = b ∧ t = t' := by
  have hall {c : Authority} (hc : c.WellFormed s) : ∀ d ∈ c.text, (!(d == '/')) = true :=
    fun d hd ↦ by simp [avoids_slash_authority hc d hd]
  have hstop {t : Text} (ht : ∀ c ∈ t.head?, c = '/') : ∀ c ∈ t.head?, (!(c == '/')) = false :=
    fun c hc ↦ by simp [ht c hc]
  have hfront := congrArg (List.takeWhile fun c ↦ !(c == '/')) h
  have hback := congrArg (List.dropWhile fun c ↦ !(c == '/')) h
  rw [Text.takeWhile_append_stop (hall ha) (hstop ht),
    Text.takeWhile_append_stop (hall hb) (hstop ht')] at hfront
  rw [Text.dropWhile_append_stop (hall ha) (hstop ht),
    Text.dropWhile_append_stop (hall hb) (hstop ht')] at hback
  exact ⟨Authority.eq_of_text_eq ha hb hfront, hback⟩

theorem tailText_marked {ss : List Text} (hmark : u.dotMark = true) (hp : u.path = .segments ss) :
    u.tailText = (Path.segments (['.'] :: ss)).text := by
  rw [tailText, hmark, hp]
  rfl

theorem tailText_unmarked {ss : List Text} (hmark : u.dotMark = false)
    (hp : u.path = .segments ss) : u.tailText = (Path.segments ss).text := by
  rw [tailText_of_not_dotMark hmark, hp]

/-- Paths without dots in them are the same where they are written alike, marks and all. -/
theorem path_eq_of_tailText_eq {ss ts : List Text} (hp : u.path = .segments ss)
    (hq : v.path = .segments ts) (hss : ∀ x ∈ ss, Text.Avoids (· == '/') x)
    (hts : ∀ x ∈ ts, Text.Avoids (· == '/') x)
    (hdots : v.dotMark = true → ∀ x ∈ ss, Path.DotFree x) (hdots' : ∀ x ∈ ts, Path.DotFree x)
    (h : u.tailText = v.tailText) : u.dotMark = v.dotMark ∧ ss = ts := by
  cases hmark : u.dotMark with
  | true =>
    rw [tailText_marked hmark hp] at h
    cases hmark' : v.dotMark with
    | true =>
      rw [tailText_marked hmark' hq] at h
      have heq :=
        Path.segments_eq_of_text_eq (Path.avoids_dot_cons hss) (Path.avoids_dot_cons hts) h
      exact ⟨rfl, (List.cons.inj heq).2⟩
    | false =>
      rw [tailText_unmarked hmark' hq] at h
      have heq := Path.segments_eq_of_text_eq (Path.avoids_dot_cons hss) hts h
      exact absurd (hdots' ['.'] (by rw [← heq]; exact List.mem_cons_self)) Path.not_dotFree_dot
  | false =>
    rw [tailText_unmarked hmark hp] at h
    cases hmark' : v.dotMark with
    | true =>
      rw [tailText_marked hmark' hq] at h
      have heq := Path.segments_eq_of_text_eq hss (Path.avoids_dot_cons hts) h
      exact absurd (hdots hmark' ['.'] (by rw [heq]; exact List.mem_cons_self)) Path.not_dotFree_dot
    | false =>
      rw [tailText_unmarked hmark' hq] at h
      exact ⟨rfl, Path.segments_eq_of_text_eq hss hts h⟩

theorem WellFormed.avoids_slash (hu : u.WellFormed) {ss : List Text} (hp : u.path = .segments ss) :
    ∀ x ∈ ss, Text.Avoids (· == '/') x := by
  have hpath := hu.path_wellFormed
  rw [hp] at hpath
  exact fun x hx ↦ Path.avoids_slash (hpath.1 x hx)

/-- What is not rootless begins with a slash. -/
theorem WellFormed.head?_bodyText (hu : u.WellFormed) (hrooted : u.path.isRootless = false) :
    u.bodyText.head? = some '/' := by
  cases ha : u.authority with
  | some a => rw [bodyText_of_authority ha, List.head?_cons]
  | none =>
    obtain ⟨x, xs, hp, -⟩ := hu.segments_of_none ha hrooted
    rw [bodyText_of_none ha]
    cases hmark : u.dotMark with
    | true => rw [tailText_marked hmark hp, Path.text_segments_cons, List.head?_cons]
    | false => rw [tailText_unmarked hmark hp, Path.text_segments_cons, List.head?_cons]

/-- Without an authority a path with its mark where it needs one is not written like one. -/
theorem WellFormed.not_beginsWithAuthority (hu : u.WellFormed) (ha : u.authority = none)
    (hrooted : u.path.isRootless = false)
    (hmark : u.dotMark = needsDotMark u.authority u.path) (t : Text) :
    u.tailText ≠ '/' :: '/' :: t := by
  obtain ⟨x, xs, hp, havoids⟩ := hu.segments_of_none ha hrooted
  rw [needsDotMark, ha, hp] at hmark
  intro h
  cases hm : u.dotMark with
  | true =>
    rw [tailText_marked hm hp] at h
    cases h
  | false =>
    rw [tailText_unmarked hm hp, Path.text_segments_cons] at h
    rw [hm] at hmark
    have hhead := head?_join_ne_slash (havoids x List.mem_cons_self) hmark.symm
    rw [(List.cons.inj h).2] at hhead
    exact hhead rfl

theorem ext_of_reference (href : u.reference = v.reference) (ha : u.authority = v.authority)
    (hm : u.dotMark = v.dotMark) (hp : u.path = v.path) : u = v := by
  have hscheme := Option.some.inj (congrArg Reference.scheme href)
  have hquery := congrArg Reference.query href
  have hfragment := congrArg Reference.fragment href
  obtain ⟨scheme, authority, dotMark, path, query, fragment⟩ := u
  obtain ⟨scheme', authority', dotMark', path', query', fragment'⟩ := v
  cases hscheme
  cases hquery
  cases hfragment
  cases ha
  cases hm
  cases hp
  rfl

/-! ## Reading a URL as another one -/

section Read

variable {ss ts : List Text}

/-- A rootless path is not written like another one. -/
theorem WellFormed.exists_segments_of_text_eq (hu : u.WellFormed) (hv : v.WellFormed)
    (htext : u.text = v.text) (hrooted : u.path.isRootless = false) :
    ∃ ts, v.path = .segments ts := by
  cases hq : v.path with
  | segments ts => exact ⟨ts, rfl⟩
  | rootless t =>
    have hbody : u.bodyText = v.bodyText :=
      congrArg Reference.body (hu.reference_eq_of_text_eq hv htext)
    have hhead := hu.head?_bodyText hrooted
    have hpath := hv.path_wellFormed
    rw [hq] at hpath
    rw [hbody, hv.bodyText_rootless hq] at hhead
    exact absurd hhead hpath.2.2.2

/-- Where the authorities agree and the paths are written alike, the URLs are the same. -/
theorem WellFormed.eq_of_tailText_eq (hu : u.WellFormed) (h : parse none u.text = .ok v)
    (htext : u.text = v.text) (hp : u.path = .segments ss) (hauth : u.authority = v.authority)
    (htail : u.tailText = v.tailText) (hfree : v.dotMark = true → ∀ x ∈ ss, Path.DotFree x) :
    u = v := by
  have hv := wellFormed_of_parse h
  obtain ⟨ts, hq⟩ := hu.exists_segments_of_text_eq hv htext (by rw [hp]; rfl)
  have hdots := dotFree_of_parse h fun _ ↦ hu.avoids_isBreak_text
  rw [hq] at hdots
  obtain ⟨hmark, hst⟩ :=
    path_eq_of_tailText_eq hp hq (hu.avoids_slash hp) (hv.avoids_slash hq) hfree hdots htail
  exact ext_of_reference (hu.reference_eq_of_text_eq hv htext) hauth hmark (by rw [hp, hq, hst])

theorem WellFormed.eq_of_authority (hu : u.WellFormed) (h : parse none u.text = .ok v)
    (htext : u.text = v.text) {a : Authority} (ha : u.authority = some a) : u = v := by
  have hv := wellFormed_of_parse h
  have hmark := dotMark_of_parse h
  have href := hu.reference_eq_of_text_eq hv htext
  have hscheme : u.scheme = v.scheme := Option.some.inj (congrArg Reference.scheme href)
  have hbody : u.bodyText = v.bodyText := congrArg Reference.body href
  have hrooted := hu.isRootless_eq_false ha
  obtain ⟨ss, hp⟩ := Path.exists_segments hrooted
  obtain ⟨ts, hq⟩ := hu.exists_segments_of_text_eq hv htext hrooted
  have hrooted' : v.path.isRootless = false := by
    rw [hq]
    rfl
  rw [bodyText_of_authority ha] at hbody
  cases hb : v.authority with
  | none =>
    rw [bodyText_of_none hb] at hbody
    exact absurd hbody.symm (hv.not_beginsWithAuthority hb hrooted' hmark _)
  | some b =>
    have hwf := hu.authority_wellFormed a ha
    have hwf' := hv.authority_wellFormed b hb
    rw [← hscheme] at hwf'
    rw [bodyText_of_authority hb, List.cons.injEq, List.cons.injEq] at hbody
    obtain ⟨hab, htail⟩ :=
      authority_append_inj hwf hwf' (head?_tailText hrooted) (head?_tailText hrooted') hbody.2.2
    refine hu.eq_of_tailText_eq h htext hp (by rw [ha, hb, hab]) htail fun hm ↦ ?_
    -- behind an authority no path needs a mark
    rw [hmark, hb] at hm
    cases hm

theorem WellFormed.eq_or_disguised_of_none (hu : u.WellFormed) (h : parse none u.text = .ok v)
    (htext : u.text = v.text) (ha : u.authority = none) (hp : u.path = .segments ss) :
    u = v ∨ u.Disguised := by
  have hv := wellFormed_of_parse h
  have href := hu.reference_eq_of_text_eq hv htext
  have hscheme : u.scheme = v.scheme := Option.some.inj (congrArg Reference.scheme href)
  have hbody : u.bodyText = v.bodyText := congrArg Reference.body href
  rw [bodyText_of_none ha] at hbody
  cases hb : v.authority with
  | none =>
    rw [bodyText_of_none hb] at hbody
    refine .inl (hu.eq_of_tailText_eq h htext hp (by rw [ha, hb]) hbody fun _ ↦ ?_)
    have hfree := hu.path_dotFree (hu.isSpecial_eq_false ha)
    rwa [hp] at hfree
  | some b =>
    obtain ⟨ts, hq⟩ := hu.exists_segments_of_text_eq hv htext (by rw [hp]; rfl)
    have hwf := hv.authority_wellFormed b hb
    have hmark : v.dotMark = false := by
      rw [dotMark_of_parse h, hb]
      rfl
    rw [bodyText_of_authority hb, tailText_unmarked hmark hq] at hbody
    have hwritten : '/' :: '/' :: (b.text ++ (Path.segments ts).text) =
        (Path.segments ([] :: b.text :: ts)).text := rfl
    rw [hwritten] at hbody
    -- so the path of the first URL has these segments, and a mark in front would be one more
    refine .inr ⟨ha, ?_⟩
    cases hm : u.dotMark with
    | true =>
      rw [tailText_marked hm hp] at hbody
      cases hbody
    | false =>
      rw [tailText_unmarked hm hp] at hbody
      have hslashes : ∀ x ∈ [] :: b.text :: ts, Text.Avoids (· == '/') x :=
        List.forall_mem_cons.mpr ⟨Text.avoids_nil, List.forall_mem_cons.mpr
          ⟨avoids_slash_authority hwf, hv.avoids_slash hq⟩⟩
      have hst := Path.segments_eq_of_text_eq (hu.avoids_slash hp) hslashes hbody
      refine ⟨rfl, b, ts, by rw [hp, hst], ?_, password_of_parse h hb⟩
      rwa [hscheme]

/-- **What is read from a written URL and written in the same way is that URL, unless it was
disguised.** -/
theorem WellFormed.eq_or_disguised (hu : u.WellFormed) (h : parse none u.text = .ok v)
    (htext : u.text = v.text) : u = v ∨ u.Disguised := by
  cases hp : u.path with
  | rootless t =>
    rw [hu.parse_text_of_rootless hp] at h
    exact .inl (Except.ok.inj h)
  | segments ss =>
    cases ha : u.authority with
    | none => exact hu.eq_or_disguised_of_none h htext ha hp
    | some a => exact .inl (hu.eq_of_authority h htext ha)

end Read

/-! ## What a disguised URL is taken for -/

/-- A URL with an authority and segments in the place of its own. -/
def exposed (u : Url) (a : Authority) (rest : List Text) : Url :=
  { u with authority := some a, path := .segments rest }

section Exposed

variable {a : Authority} {rest : List Text}

theorem text_exposed (ha : u.authority = none) (hmark : u.dotMark = false)
    (hp : u.path = .segments ([] :: a.text :: rest)) : (u.exposed a rest).text = u.text := by
  have htail : (u.exposed a rest).tailText = (Path.segments rest).text :=
    tailText_unmarked hmark rfl
  have hbody : (u.exposed a rest).bodyText = u.bodyText := by
    rw [bodyText_of_none ha, tailText_unmarked hmark hp, bodyText_of_authority rfl, htail]
    rfl
  rw [text_eq, text_eq, hbody]
  rfl

theorem WellFormed.exposed (hu : u.WellFormed) (hspecial : u.scheme.isSpecial = false)
    (hp : u.path = .segments ([] :: a.text :: rest)) (ha : a.WellFormed u.scheme) :
    (u.exposed a rest).WellFormed where
  scheme_written := hu.scheme_written
  authority_wellFormed := fun b hb ↦ by
    cases hb
    exact ha
  authority_isSome := fun _ ↦ rfl
  path_wellFormed := by
    have hpath := hu.path_wellFormed
    rw [hp] at hpath
    refine ⟨fun x hx ↦ hpath.1 x (by simp [hx]), fun _ ↦ ⟨hspecial, rfl⟩, fun hfile ↦ ?_⟩
    exact absurd (Scheme.isSpecial_of_isFile hfile) (Bool.eq_false_iff.mp hspecial)
  path_dotFree := fun _ x hx ↦ hu.path_dotFree hspecial x (by
    rw [hp]
    exact List.mem_cons_of_mem _ (List.mem_cons_of_mem _ hx))
  path_firm := fun t ht ↦ by cases ht
  dotMark_rooted := fun _ ↦ ⟨hspecial, rfl⟩
  query_avoids := hu.query_avoids
  fragment_avoids := hu.fragment_avoids

theorem WellFormed.settled_exposed (hu : u.WellFormed) (hspecial : u.scheme.isSpecial = false)
    (hmark : u.dotMark = false) (hp : u.path = .segments ([] :: a.text :: rest))
    (hpassword : a.host = .none → a.password = []) : (u.exposed a rest).Settled where
  dotMark := hmark
  password := fun b hb ↦ by
    cases hb
    exact hpassword
  name := fun hs ↦ absurd hs (Bool.eq_false_iff.mp hspecial)
  dotFree := fun x hx ↦ hu.path_dotFree hspecial x (by
    rw [hp]
    exact List.mem_cons_of_mem _ (List.mem_cons_of_mem _ hx))
  drive := fun hfile ↦
    absurd (Scheme.isSpecial_of_isFile hfile) (Bool.eq_false_iff.mp hspecial)

end Exposed

/-- A disguised URL is read as a URL with an authority, and written back in the same way. -/
theorem WellFormed.parse_text_of_disguised (hu : u.WellFormed) (h : u.Disguised) :
    ∃ v, parse none u.text = .ok v ∧ v.text = u.text := by
  obtain ⟨ha, hmark, a, rest, hp, hwf, hpassword⟩ := h
  have hspecial := hu.isSpecial_eq_false ha
  have htext := text_exposed ha hmark hp
  have hread := (hu.exposed hspecial hp hwf).parse_text_of_settled
    (hu.settled_exposed hspecial hmark hp hpassword)
  rw [htext] at hread
  exact ⟨u.exposed a rest, hread, htext⟩

/-- **The written form of a URL is read and written back in the same way exactly when the URL is
settled or disguised.** -/
theorem WellFormed.text_fixed_iff (hu : u.WellFormed) :
    (∃ v, parse none u.text = .ok v ∧ v.text = u.text) ↔ u.Settled ∨ u.Disguised := by
  constructor
  · rintro ⟨v, h, htext⟩
    rcases hu.eq_or_disguised h htext.symm with rfl | hdisguised
    · exact .inl (hu.parse_text_eq_ok_iff.mp h)
    · exact .inr hdisguised
  · rintro (hs | hdisguised)
    · exact ⟨u, hu.parse_text_of_settled hs, rfl⟩
    · exact hu.parse_text_of_disguised hdisguised

end Url

end UrlCalculus
