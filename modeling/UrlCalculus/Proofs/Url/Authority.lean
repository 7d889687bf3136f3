import UrlCalculus.Proofs.Host.Reading
import UrlCalculus.Url.Authority

/-!
# Authorities read back

An authority that was read is well-formed, and the written form of a well-formed authority is taken
apart again into the same credentials and the same port. Its host is read anew; with a host that
comes back, so does the authority.

An authority without a host has neither a user name nor a port. It can have a password, which is
not read back.
-/

namespace UrlCalculus

/-! ## The characters around an authority -/

theorem endsAuthority_of_separator {isSpecial : Bool} {c : Char}
    (h : isPathSeparator isSpecial c = true) : endsAuthority isSpecial c = true := by
  simp [endsAuthority, h]

/-- An authority ends at one of four characters, and what holds of these holds where it ends. -/
theorem of_endsAuthority {p : Char → Prop} (hslash : p '/') (hbackslash : p '\\')
    (hquestion : p '?') (hnumber : p '#') {isSpecial : Bool} {c : Char}
    (h : endsAuthority isSpecial c = true) : p c := by
  simp only [endsAuthority, isPathSeparator, Bool.or_eq_true, Bool.and_eq_true, beq_iff_eq] at h
  rcases h with ((rfl | ⟨-, rfl⟩) | rfl) | rfl
  · exact hslash
  · exact hbackslash
  · exact hquestion
  · exact hnumber

theorem userinfo_of_endsAuthority {isSpecial : Bool} {c : Char}
    (h : endsAuthority isSpecial c = true) : EncodeSet.userinfo c = true :=
  of_endsAuthority (p := fun c ↦ EncodeSet.userinfo c = true) rfl rfl rfl rfl h

/-- An authority ends where a path begins. -/
theorem endsAuthority_of_slash {isSpecial : Bool} {rest : Text} (h : ∀ c ∈ rest.head?, c = '/') :
    ∀ c ∈ rest.head?, endsAuthority isSpecial c = true := by
  intro c hc
  rw [h c hc]
  rfl

namespace Host

variable {isSpecial : Bool} {h : Host}

theorem Valid.avoids_endsAuthority (hvalid : h.Valid isSpecial) :
    Text.Avoids (endsAuthority isSpecial) h.text := by
  have hall {c : Char} (hc : endsAuthority isSpecial c = true) :
      Domain.denied c = true ∧ forbidden c = true :=
    of_endsAuthority (p := fun c ↦ Domain.denied c = true ∧ forbidden c = true) ⟨rfl, rfl⟩
      ⟨rfl, rfl⟩ ⟨rfl, rfl⟩ ⟨rfl, rfl⟩ hc
  refine hvalid.avoids_text (fun c hc ↦ (hall hc).1) (fun c hc _ ↦ .inl (hall hc).2) ?_
  cases isSpecial <;> decide

theorem Valid.avoids_at (hvalid : h.Valid isSpecial) : Text.Avoids (· == '@') h.text := by
  refine hvalid.avoids_text (fun c hc ↦ ?_) (fun c hc _ ↦ .inl ?_) (by decide)
  · rw [eq_of_beq hc]
    rfl
  · rw [eq_of_beq hc]
    rfl

theorem Valid.avoids_isControlOrSpace (hvalid : h.Valid isSpecial) :
    Text.Avoids Text.isControlOrSpace h.text := by
  refine hvalid.avoids_text (fun c hc ↦ ?_) (fun c hc _ ↦ ?_) (by decide)
  · simp only [Text.isControlOrSpace] at hc
    simp [Domain.denied, hc]
  · rcases EncodeSet.controls_or_space hc with hc | rfl
    · exact .inr hc
    · exact .inl rfl

theorem avoids_text_none {p : Char → Bool} : Text.Avoids p Host.none.text := Text.avoids_nil

end Host

/-! ## Cutting off the host -/

section SplitHost

variable {isSpecial : Bool} {rest : Text}

theorem splitHost_append {inBrackets : Bool} {t : Text} (rest : Text)
    (hends : Text.Avoids (endsAuthority isSpecial) t)
    (hbrackets : Text.Avoids (fun c ↦ c == '[' || c == ']') t)
    (hcolon : inBrackets = false → Text.Avoids (· == ':') t) :
    splitHost isSpecial inBrackets (t ++ rest) =
      (t ++ (splitHost isSpecial inBrackets rest).1, (splitHost isSpecial inBrackets rest).2) := by
  induction t with
  | nil => rfl
  | cons c t ih =>
    rw [Text.avoids_cons] at hends hbrackets
    obtain ⟨hopen, hclose⟩ : ¬c = '[' ∧ ¬c = ']' := by simpa using hbrackets.1
    have hstop : (endsAuthority isSpecial c || (c == ':' && !inBrackets)) = false := by
      cases inBrackets with
      | true => simp [hends.1]
      | false => simpa [hends.1] using (Text.avoids_cons.mp (hcolon rfl)).1
    rw [List.cons_append, splitHost, if_neg (by simp [hstop])]
    simp only [if_neg hopen, if_neg hclose]
    rw [ih hends.2 hbrackets.2 fun h ↦ (Text.avoids_cons.mp (hcolon h)).2]
    rfl

theorem splitHost_stop
    (h : ∀ c ∈ rest.head?, endsAuthority isSpecial c = true ∨ c = ':') :
    splitHost isSpecial false rest = ([], rest) := by
  cases rest with
  | nil => rfl
  | cons c rest =>
    rw [splitHost, if_pos]
    rcases h c rfl with hends | rfl
    · simp [hends]
    · simp

/-- Between brackets a colon does not end the host. -/
theorem splitHost_ipv6 (a : Ipv6)
    (hrest : ∀ c ∈ rest.head?, endsAuthority isSpecial c = true ∨ c = ':') :
    splitHost isSpecial false ((Host.ipv6 a).text ++ rest) = ((Host.ipv6 a).text, rest) := by
  have hopen : endsAuthority isSpecial '[' = false := by cases isSpecial <;> rfl
  have hclose : endsAuthority isSpecial ']' = false := by cases isSpecial <;> rfl
  have ha : Text.Avoids (endsAuthority isSpecial) a.text :=
    Ipv6.avoids_text (by cases isSpecial <;> rfl) (by cases isSpecial <;> decide) a
  have hinner : splitHost isSpecial true (a.text ++ ']' :: rest) =
      (a.text ++ (splitHost isSpecial true (']' :: rest)).1,
        (splitHost isSpecial true (']' :: rest)).2) :=
    splitHost_append _ ha (Ipv6.avoids_text (by decide) (by decide) a) (by simp)
  rw [splitHost, if_neg (by simp [hclose])] at hinner
  simp only [Char.reduceEq, if_false, if_true] at hinner
  rw [splitHost_stop hrest] at hinner
  rw [Host.text, List.cons_append, List.cons_append, List.append_assoc, List.singleton_append,
    splitHost, if_neg (by simp [hopen])]
  simp only [if_true]
  rw [hinner]

/-- The written form of a host is cut off as a whole. -/
theorem splitHost_text {h : Host} (hvalid : h.Valid isSpecial)
    (hrest : ∀ c ∈ rest.head?, endsAuthority isSpecial c = true ∨ c = ':') :
    splitHost isSpecial false (h.text ++ rest) = (h.text, rest) := by
  have hends := hvalid.avoids_endsAuthority
  -- outside brackets there is no colon either
  have hplain (hbrackets : Text.Avoids (fun c ↦ c == '[' || c == ']') h.text)
      (hcolon : Text.Avoids (· == ':') h.text) :
      splitHost isSpecial false (h.text ++ rest) = (h.text, rest) := by
    rw [splitHost_append rest hends hbrackets fun _ ↦ hcolon, splitHost_stop hrest,
      List.append_nil]
  cases h with
  | name t =>
    exact hplain ((hvalid.avoids_name rfl rfl).or (hvalid.avoids_name rfl rfl))
      (hvalid.avoids_name rfl rfl)
  | ipv4 a =>
    exact hplain (Ipv4.avoids_text (by decide) (by decide) a)
      (Ipv4.avoids_text (by decide) (by decide) a)
  | ipv6 a => exact splitHost_ipv6 a hrest

end SplitHost

/-! ## Credentials -/

section Credentials

variable {isSpecial : Bool} {t rest : Text}

theorem cutCredentials?_of_avoids (hat : Text.Avoids (· == '@') t)
    (hends : Text.Avoids (endsAuthority isSpecial) t)
    (hrest : ∀ c ∈ rest.head?, endsAuthority isSpecial c = true) :
    cutCredentials? isSpecial (t ++ rest) = none := by
  -- the at sign is looked for up to the end of the authority, which is where `rest` begins
  induction t with
  | nil =>
    cases rest with
    | nil => rfl
    | cons c rest => rw [List.nil_append, cutCredentials?, if_pos (hrest c rfl)]
  | cons c t ih =>
    rw [Text.avoids_cons] at hat hends
    rw [List.cons_append, cutCredentials?, if_neg (by simp [hends.1]), ih hat.2 hends.2]
    exact if_neg (by simpa using hat.1)

theorem cutCredentials?_append (hends : Text.Avoids (endsAuthority isSpecial) t)
    (hrest : cutCredentials? isSpecial rest = none) :
    cutCredentials? isSpecial (t ++ '@' :: rest) = some (t, rest) := by
  induction t with
  | nil =>
    have hat : endsAuthority isSpecial '@' = false := by cases isSpecial <;> rfl
    rw [List.nil_append, cutCredentials?, if_neg (by simp [hat]), hrest]
    rfl
  | cons c t ih =>
    rw [Text.avoids_cons] at hends
    rw [List.cons_append, cutCredentials?, if_neg (by simp [hends.1]), ih hends.2]

/-- The user name and the password as they stand in front of the at sign. -/
def writtenCredentials (username password : Text) : Text :=
  username ++ (if password.isEmpty then [] else ':' :: password)

theorem readCredentials_written {username password : Text}
    (husername : Text.Avoids EncodeSet.userinfo username)
    (hpassword : Text.Avoids EncodeSet.userinfo password) :
    readCredentials (writtenCredentials username password) = (username, password) := by
  have hcolon : Text.Avoids (· == ':') username := husername.beq rfl
  cases password with
  | nil =>
    rw [writtenCredentials, if_pos (by rfl), List.append_nil, readCredentials,
      Text.cut_of_avoids hcolon]
    simp only [Text.percentEncode_of_avoids husername]
    rfl
  | cons c password =>
    rw [writtenCredentials, if_neg (by simp), readCredentials, Text.cut_append hcolon (by rfl)]
    simp only [Text.percentEncode_of_avoids husername, Option.getD_some,
      Text.percentEncode_of_avoids hpassword]

theorem avoids_writtenCredentials {username password : Text}
    (husername : Text.Avoids EncodeSet.userinfo username)
    (hpassword : Text.Avoids EncodeSet.userinfo password) {p : Char → Bool}
    (hset : ∀ c, p c = true → EncodeSet.userinfo c = true) (hcolon : p ':' = false) :
    Text.Avoids p (writtenCredentials username password) := by
  rw [writtenCredentials]
  split
  · rw [List.append_nil]
    exact husername.mono hset
  · simp [husername.mono hset, hcolon, hpassword.mono hset]

end Credentials

/-! ## The port -/

theorem readPortDigits_decimal (port : PortNumber) {rest : Text}
    (hrest : ∀ c ∈ rest.head?, c.isDigit = false) :
    readPortDigits (Text.decimal port ++ rest) = .ok (some port, rest) := by
  have hdigits : ∀ c ∈ Text.decimal port, c.isDigit = true := fun c ↦ Text.isDigit_of_mem_decimal
  rw [readPortDigits, Text.takeWhile_append_stop hdigits hrest,
    Text.dropWhile_append_stop hdigits hrest, Text.number?_decimal]
  simp only [port.isLt, dite_true]

theorem readPort_decimal (s : Scheme) (port : PortNumber) {rest : Text}
    (hrest : ∀ c ∈ rest.head?, c = '/') :
    readPort s (Text.decimal port ++ rest) = .ok (withoutDefault s (some port), rest) := by
  have hdigit : ∀ c ∈ rest.head?, c.isDigit = false := by
    intro c hc
    rw [hrest c hc]
    rfl
  rw [readPort, readPortDigits_decimal port hdigit]
  cases rest with
  | nil => rfl
  | cons c rest =>
    rw [hrest c rfl]
    rfl

theorem withoutDefault_withoutDefault (s : Scheme) (port : Option PortNumber) :
    withoutDefault s (withoutDefault s port) = withoutDefault s port := by
  by_cases h : port = s.defaultPort?
  · rw [withoutDefault, withoutDefault, if_pos h, ite_self]
  · rw [withoutDefault, withoutDefault, if_neg h, if_neg h]

@[simp]
theorem withoutDefault_none (s : Scheme) : withoutDefault s none = none := by
  rw [withoutDefault, ite_self]

/-! ## The authority -/

namespace Authority

/-- What is known of an authority that was read. In a file URL there is nothing but the host, which
may be none, but not the local one. -/
structure WellFormed (s : Scheme) (a : Authority) : Prop where
  username_avoids : Text.Avoids EncodeSet.userinfo a.username
  password_avoids : Text.Avoids EncodeSet.userinfo a.password
  host_valid : a.host.Valid s.isSpecial ∨ s.isFile = true ∧ a.host = .none
  port_written : withoutDefault s a.port = a.port
  hostless : a.host = .none → a.username = [] ∧ a.port = none
  file : s.isFile = true → a = .ofHost a.host ∧ a.host ≠ localhost

variable {s : Scheme} {a : Authority}

theorem wellFormed_ofHost {h : Host} (hvalid : h.Valid s.isSpecial ∨ s.isFile = true ∧ h = .none)
    (hlocal : h ≠ localhost) : (ofHost h).WellFormed s where
  username_avoids := Text.avoids_nil
  password_avoids := Text.avoids_nil
  host_valid := hvalid
  port_written := withoutDefault_none s
  hostless _ := ⟨rfl, rfl⟩
  file _ := ⟨rfl, hlocal⟩

theorem WellFormed.host_valid_of_not_isFile (ha : a.WellFormed s) (hfile : s.isFile = false) :
    a.host.Valid s.isSpecial := by
  rcases ha.host_valid with h | ⟨h, -⟩
  · exact h
  · rw [hfile] at h
    exact absurd h (by simp)

theorem WellFormed.host_valid_of_ne_none (ha : a.WellFormed s) (hne : a.host ≠ .none) :
    a.host.Valid s.isSpecial := by
  rcases ha.host_valid with h | ⟨-, hnone⟩
  · exact h
  · exact absurd hnone hne

theorem credentialsText_eq (a : Authority) :
    a.credentialsText =
      if a.username.isEmpty && a.password.isEmpty then []
      else writtenCredentials a.username a.password ++ ['@'] := rfl

theorem hostPortText_of_none (h : a.port = none) : a.hostPortText = a.host.text := by
  rw [hostPortText, h]
  exact List.append_nil _

theorem hostPortText_of_some {port : PortNumber} (h : a.port = some port) :
    a.hostPortText = a.host.text ++ ':' :: Text.decimal port := by
  rw [hostPortText, portText, h]
  rfl

theorem avoids_hostPortText {p : Char → Bool}
    (hhost : Text.Avoids p a.host.text) (hcolon : p ':' = false)
    (hdigits : ∀ d < 10, p (Nat.digitChar d) = false) : Text.Avoids p a.hostPortText := by
  cases hport : a.port with
  | none => rwa [hostPortText_of_none hport]
  | some port =>
    rw [hostPortText_of_some hport]
    simp [hhost, hcolon, Text.avoids_decimal hdigits]

theorem WellFormed.avoids_hostText (ha : a.WellFormed s) {p : Char → Bool}
    (h : a.host.Valid s.isSpecial → Text.Avoids p a.host.text) : Text.Avoids p a.host.text := by
  rcases ha.host_valid with hvalid | ⟨-, hnone⟩
  · exact h hvalid
  · rw [hnone]
    exact Host.avoids_text_none

/-- What the written form of an authority avoids. -/
theorem WellFormed.avoids_text (ha : a.WellFormed s) {p : Char → Bool}
    (hhost : a.host.Valid s.isSpecial → Text.Avoids p a.host.text)
    (hset : ∀ c, p c = true → EncodeSet.userinfo c = true) (hcolon : p ':' = false)
    (hat : p '@' = false) (hdigits : ∀ d < 10, p (Nat.digitChar d) = false) :
    Text.Avoids p a.text := by
  have hhostPort := avoids_hostPortText (ha.avoids_hostText hhost) hcolon hdigits
  rw [text, credentialsText_eq]
  split
  · exact hhostPort
  · simp [avoids_writtenCredentials ha.username_avoids ha.password_avoids hset hcolon, hat,
      hhostPort]

end Authority

/-! ## Reading -/

section Reading

variable {s : Scheme} {t rest : Text}

theorem valid_of_readHost {h : Host} (hread : readHost s t = .ok (h, rest)) :
    h.Valid s.isSpecial := by
  rw [readHost] at hread
  cases hspecial : s.isSpecial with
  | true =>
    simp only [hspecial, if_true] at hread
    split at hread
    · cases hread
    · obtain ⟨h', hh, hpair⟩ := bind_eq_ok_iff.mp hread
      cases hpair
      exact Host.valid_of_special hh
  | false =>
    simp only [hspecial, Bool.false_eq_true, if_false] at hread
    obtain ⟨h', hh, hpair⟩ := bind_eq_ok_iff.mp hread
    cases hpair
    exact Host.valid_of_nonspecial hh

theorem withoutDefault_of_readPort {port : Option PortNumber}
    (hread : readPort s t = .ok (port, rest)) : withoutDefault s port = port := by
  rw [readPort] at hread
  obtain ⟨⟨read, left⟩, -, hrest⟩ := bind_eq_ok_iff.mp hread
  cases left with
  | nil =>
    cases hrest
    exact withoutDefault_withoutDefault s read
  | cons c left =>
    simp only at hrest
    split at hrest
    · cases hrest
      exact withoutDefault_withoutDefault s read
    · exact absurd hrest (by simp)

theorem readHostPort_error {e : UrlError} (hhost : readHost s t = .error e) :
    readHostPort s t = .error e := by
  rw [readHostPort, hhost]
  rfl

theorem readHostPort_colon {h : Host} (hhost : readHost s t = .ok (h, ':' :: rest)) :
    readHostPort s t =
      if h.isNone then .error .emptyHost
      else readPort s rest >>= fun read ↦ .ok (h, read.1, read.2) := by
  rw [readHostPort, hhost]
  cases hnone : h.isNone with
  | true => simp only [ok_bind, hnone]; rfl
  | false => simp only [ok_bind, hnone]; rfl

theorem readHostPort_of_ne_colon {h : Host} (hhost : readHost s t = .ok (h, rest))
    (hcolon : rest.head? ≠ some ':') : readHostPort s t = .ok (h, none, rest) := by
  rw [readHostPort, hhost]
  cases rest with
  | nil => rfl
  | cons c rest =>
    have hc : c ≠ ':' := by
      rintro rfl
      exact hcolon rfl
    simp only [ok_bind]
    split
    · rename_i hcons
      cases hcons
      exact absurd rfl hc
    · rfl

/-- A host and a port that were read: without a host there is no port. -/
theorem of_readHostPort {h : Host} {port : Option PortNumber}
    (hread : readHostPort s t = .ok (h, port, rest)) :
    h.Valid s.isSpecial ∧ withoutDefault s port = port ∧ (h = .none → port = none) := by
  cases hhost : readHost s t with
  | error e =>
    rw [readHostPort_error hhost] at hread
    exact absurd hread (by simp)
  | ok found =>
    obtain ⟨host, left⟩ := found
    have hvalid := valid_of_readHost hhost
    by_cases hcolon : left.head? = some ':'
    · obtain ⟨left', rfl⟩ : ∃ left', left = ':' :: left' := by
        cases left with
        | nil => cases hcolon
        | cons c left' => exact ⟨left', congrArg (· :: left') (Option.some.inj hcolon)⟩
      rw [readHostPort_colon hhost] at hread
      split at hread
      · exact absurd hread (by simp)
      · rename_i hnone
        obtain ⟨⟨port', left''⟩, hport, hpair⟩ := bind_eq_ok_iff.mp hread
        cases hpair
        refine ⟨hvalid, withoutDefault_of_readPort hport, ?_⟩
        rintro rfl
        exact absurd rfl hnone
    · rw [readHostPort_of_ne_colon hhost hcolon] at hread
      cases hread
      exact ⟨hvalid, withoutDefault_none s, fun _ ↦ rfl⟩

theorem readAuthority_of_none {more : Bool} (h : cutCredentials? s.isSpecial t = none) :
    readAuthority s t more =
      readHostPort s t >>= fun read ↦ .ok (⟨[], [], read.1, read.2.1⟩, read.2.2) := by
  rw [readAuthority, h]
  rfl

/-- Whether what follows an at sign leaves room for a host. -/
def pathFollows (s : Scheme) (more : Bool) : Text → Bool
  | [] => more
  | c :: _ => isPathSeparator s.isSpecial c

theorem readAuthority_of_some {more : Bool} {written left : Text}
    (h : cutCredentials? s.isSpecial t = some (written, left)) :
    readAuthority s t more =
      if written.isEmpty && pathFollows s more left then .error .emptyHost
      else
        readHostPort s left >>= fun read ↦
          if read.1.isNone &&
              !((readCredentials written).1.isEmpty && (readCredentials written).2.isEmpty) then
            .error .emptyHost
          else
            .ok (⟨(readCredentials written).1, (readCredentials written).2, read.1, read.2.1⟩,
              read.2.2) := by
  rw [readAuthority, h]
  cases left <;> rfl

/-- **An authority that was read is well-formed**, and without a host it has no password. -/
theorem wellFormed_of_readAuthority {a : Authority} {more : Bool} (hfile : s.isFile = false)
    (hread : readAuthority s t more = .ok (a, rest)) :
    a.WellFormed s ∧ (a.host = .none → a.password = []) := by
  have hnotFile {P : Prop} : s.isFile = true → P := by
    rw [hfile]
    rintro ⟨⟩
  cases hcut : cutCredentials? s.isSpecial t with
  | none =>
    rw [readAuthority_of_none hcut] at hread
    obtain ⟨⟨host, port, left⟩, hhost, hpair⟩ := bind_eq_ok_iff.mp hread
    cases hpair
    obtain ⟨hvalid, hport, hnone⟩ := of_readHostPort hhost
    exact ⟨⟨Text.avoids_nil, Text.avoids_nil, .inl hvalid, hport, fun h ↦ ⟨rfl, hnone h⟩,
      hnotFile⟩, fun _ ↦ rfl⟩
  | some found =>
    obtain ⟨written, left⟩ := found
    rw [readAuthority_of_some hcut] at hread
    split at hread
    · exact absurd hread (by simp)
    · obtain ⟨⟨host, port, left'⟩, hhost, hrest⟩ := bind_eq_ok_iff.mp hread
      obtain ⟨hvalid, hport, hnone⟩ := of_readHostPort hhost
      simp only at hrest
      split at hrest
      · exact absurd hrest (by simp)
      · -- credentials without a host would have been an error
        rename_i hcredentials
        cases hrest
        have hempty (h : host = .none) :
            (readCredentials written).1 = [] ∧ (readCredentials written).2 = [] := by
          simpa [Host.isNone, h] using hcredentials
        refine ⟨⟨?_, ?_, .inl hvalid, hport, fun h ↦ ⟨(hempty h).1, hnone h⟩, hnotFile⟩,
          fun h ↦ (hempty h).2⟩
        · exact Text.avoids_percentEncode_self Text.avoids_encodingChars_userinfo _
        · exact Text.avoids_percentEncode_self Text.avoids_encodingChars_userinfo _

end Reading

/-! ## Reading back -/

namespace Host

theorem Valid.text_ne_nil {h : Host} (hvalid : h.Valid true) : h.text ≠ [] := by
  cases h with
  | name t => exact hvalid.1
  | ipv4 a => exact a.text_ne_nil
  | ipv6 a => exact List.cons_ne_nil _ _

/-- The host that is read where a host was written. -/
def reread (isSpecial : Bool) (h : Host) : Except UrlError Host :=
  if isSpecial then special h.text else nonspecial h.text

theorem reread_eq_ok_iff {isSpecial : Bool} {h : Host} (hvalid : h.Valid isSpecial) :
    h.reread isSpecial = .ok h ↔
      (isSpecial = true → ∀ t, h = .name t → Domain.toAscii? t = some t) := by
  cases isSpecial with
  | true => simpa [reread] using special_text_eq_ok_iff hvalid
  | false => simpa [reread] using nonspecial_text hvalid

/-- Where a host was written, a host is read. -/
theorem ne_none_of_reread {isSpecial : Bool} {h h' : Host} (hvalid : h.Valid isSpecial)
    (hne : h ≠ .none) (hread : h.reread isSpecial = .ok h') : h' ≠ .none := by
  cases isSpecial with
  | true => exact (valid_of_special hread).ne_none
  | false =>
    have hself : h.reread false = .ok h := nonspecial_text hvalid
    rw [hself] at hread
    cases hread
    exact hne

end Host

section ReadingBack

variable {s : Scheme} {a : Authority} {rest : Text}

theorem readHost_text {h : Host} (hvalid : h.Valid s.isSpecial) (rest : Text)
    (hrest : ∀ c ∈ rest.head?, endsAuthority s.isSpecial c = true ∨ c = ':') :
    readHost s (h.text ++ rest) = h.reread s.isSpecial >>= fun h' ↦ .ok (h', rest) := by
  rw [readHost, splitHost_text hvalid hrest, Host.reread]
  cases hspecial : s.isSpecial with
  | true =>
    rw [hspecial] at hvalid
    have hne : h.text.isEmpty = false := by simpa using hvalid.text_ne_nil
    simp only [hne, Bool.false_eq_true, if_true, if_false]
    rfl
  | false => rfl

theorem readHostPort_hostPortText (ha : a.WellFormed s) (hfile : s.isFile = false)
    (hrest : ∀ c ∈ rest.head?, c = '/') :
    readHostPort s (a.hostPortText ++ rest) =
      a.host.reread s.isSpecial >>= fun h ↦ .ok (h, a.port, rest) := by
  have hvalid := ha.host_valid_of_not_isFile hfile
  cases hport : a.port with
  | none =>
    have hread := readHost_text hvalid rest fun c hc ↦ .inl (endsAuthority_of_slash hrest c hc)
    rw [Authority.hostPortText_of_none hport]
    cases hh : a.host.reread s.isSpecial with
    | error e =>
      rw [hh] at hread
      exact readHostPort_error hread
    | ok h =>
      rw [hh] at hread
      refine readHostPort_of_ne_colon hread fun hcolon ↦ ?_
      cases hrest _ hcolon
  | some port =>
    have hread := readHost_text hvalid (':' :: (Text.decimal port ++ rest))
      fun c hc ↦ .inr (Option.some.inj hc).symm
    rw [Authority.hostPortText_of_some hport, List.append_assoc, List.cons_append]
    have hne : a.host ≠ .none := by
      intro hnone
      have hnoPort := (ha.hostless hnone).2
      rw [hport] at hnoPort
      exact absurd hnoPort (by simp)
    cases hh : a.host.reread s.isSpecial with
    | error e =>
      rw [hh] at hread
      exact readHostPort_error hread
    | ok h =>
      have hsome := Host.isNone_eq_false_iff.mpr (Host.ne_none_of_reread hvalid hne hh)
      have hwritten := ha.port_written
      rw [hport] at hwritten
      rw [hh] at hread
      rw [readHostPort_colon hread, hsome, readPort_decimal s port hrest, hwritten]
      rfl

/-- Credentials are what stands in front of the last at sign of a written authority. -/
theorem cutCredentials?_text (ha : a.WellFormed s) (hrest : ∀ c ∈ rest.head?, c = '/') :
    cutCredentials? s.isSpecial (a.text ++ rest) =
      if a.username.isEmpty && a.password.isEmpty then none
      else some (writtenCredentials a.username a.password, a.hostPortText ++ rest) := by
  have hdecimal : ∀ d < 10, endsAuthority s.isSpecial (Nat.digitChar d) = false := by
    cases s.isSpecial <;> decide
  have hcolon : endsAuthority s.isSpecial ':' = false := by cases s.isSpecial <;> rfl
  have hat : Text.Avoids (· == '@') a.hostPortText :=
    Authority.avoids_hostPortText (ha.avoids_hostText fun h ↦ h.avoids_at) rfl (by decide)
  have hends : Text.Avoids (endsAuthority s.isSpecial) a.hostPortText :=
    Authority.avoids_hostPortText (ha.avoids_hostText fun h ↦ h.avoids_endsAuthority) hcolon
      hdecimal
  have hcut := cutCredentials?_of_avoids hat hends (endsAuthority_of_slash hrest)
  rw [Authority.text, Authority.credentialsText_eq]
  split
  · rw [List.nil_append, hcut]
  · rw [List.append_assoc, List.append_assoc, List.singleton_append]
    exact cutCredentials?_append
      (avoids_writtenCredentials ha.username_avoids ha.password_avoids
        (fun c hc ↦ userinfo_of_endsAuthority hc) hcolon) hcut

theorem readAuthority_text_of_no_credentials (ha : a.WellFormed s) (hfile : s.isFile = false)
    (hrest : ∀ c ∈ rest.head?, c = '/') (more : Bool) (husername : a.username = [])
    (hpassword : a.password = []) :
    readAuthority s (a.text ++ rest) more =
      a.host.reread s.isSpecial >>= fun h ↦ .ok ({ a with host := h }, rest) := by
  have hcut := cutCredentials?_text ha hrest
  have htext : a.text = a.hostPortText := by
    rw [Authority.text, Authority.credentialsText, husername, hpassword]
    rfl
  rw [if_pos (by simp [husername, hpassword])] at hcut
  rw [readAuthority_of_none hcut, htext, readHostPort_hostPortText ha hfile hrest]
  cases a.host.reread s.isSpecial with
  | error e => rfl
  | ok h =>
    obtain ⟨username, password, host, port⟩ := a
    cases husername
    cases hpassword
    rfl

theorem writtenCredentials_eq_nil_iff {username password : Text} :
    writtenCredentials username password = [] ↔ username = [] ∧ password = [] := by
  rw [writtenCredentials, List.append_eq_nil_iff]
  cases password with
  | nil => simp
  | cons c password => simp

/-- **A written authority is read as itself with its host read anew.** A password without a host is
an error. -/
theorem readAuthority_text (ha : a.WellFormed s) (hfile : s.isFile = false)
    (hrest : ∀ c ∈ rest.head?, c = '/') (more : Bool) :
    readAuthority s (a.text ++ rest) more =
      if a.host = .none ∧ a.password ≠ [] then .error .emptyHost
      else a.host.reread s.isSpecial >>= fun h ↦ .ok ({ a with host := h }, rest) := by
  have hvalid := ha.host_valid_of_not_isFile hfile
  have hcut := cutCredentials?_text ha hrest
  have hreadHost := readHostPort_hostPortText ha hfile hrest
  by_cases hempty : a.username = [] ∧ a.password = []
  · rw [if_neg fun h ↦ h.2 hempty.2]
    exact readAuthority_text_of_no_credentials ha hfile hrest more hempty.1 hempty.2
  · have hwritten : (a.username.isEmpty && a.password.isEmpty) = false := by
      simpa using fun h ↦ (not_and.mp hempty) h
    have hne : (writtenCredentials a.username a.password).isEmpty = false := by
      simpa using mt writtenCredentials_eq_nil_iff.mp hempty
    rw [if_neg (by simp [hwritten])] at hcut
    rw [readAuthority_of_some hcut, hne, Bool.false_and, if_neg (by simp), hreadHost,
      readCredentials_written ha.username_avoids ha.password_avoids]
    by_cases hnone : a.host = .none
    · -- the host is read as none again, which is the error
      have hspecial : s.isSpecial = false := by
        refine Bool.eq_false_iff.mpr fun hspecial ↦ ?_
        rw [hspecial] at hvalid
        exact hvalid.ne_none hnone
      have hpassword : a.password ≠ [] := fun h ↦ hempty ⟨(ha.hostless hnone).1, h⟩
      rw [if_pos ⟨hnone, hpassword⟩, hspecial, hnone, hwritten]
      rfl
    · rw [if_neg fun h ↦ hnone h.1]
      cases hh : a.host.reread s.isSpecial with
      | error e => rfl
      | ok h =>
        have hsome := Host.isNone_eq_false_iff.mpr (Host.ne_none_of_reread hvalid hnone hh)
        simp only [ok_bind, hsome, Bool.false_and, Bool.false_eq_true, if_false]

end ReadingBack

end UrlCalculus
