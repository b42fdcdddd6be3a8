/-
Backend endpoints (`crates/config/src/backend_endpoint.rs`). `parse` turns a configured backend address into a
scheme and an authority `host:port`, adding the scheme's default port where the address has none, and validates the
authority; the accessors split the authority again.

Strings are lists of characters. The delimiters the code searches for are ASCII, so indices and slices agree with the
code's byte offsets, and every length the code compares is counted in UTF-8 bytes (`encode`). Two functions come from
outside the standard library's text methods and are parameters here: `idna::domain_to_ascii` (`domainToAscii`, none
for its error) and `s.parse::<IpAddr>().is_ok()` (`isIpAddr`). Errors carry the code's messages.

Results, whatever the two parameters:
- `parse_origin`: the origin of a parsed endpoint parses back to it;
- `parse_authority_parts`: its authority is a non-empty host, bracketed when it starts with `[`, then `:` and a port
  that the accessors read as a number in `1..=65535`;
- `parse_accepts_noncanonical_authority`: `[localhost]:443` is accepted as it stands, a bracketed authority whose
  host is no IPv6 address and no RFC 3986 `IP-literal`; and `https://` followed by an ideographic space and
  `localhost:443` keeps the space in the authority, which parses on its own to an endpoint without it.
-/
import Spooky.Lib.Text

namespace Spooky.Config

open Text

inductive BackendScheme where
  | http
  | https
deriving DecidableEq, Repr

/-- `BackendScheme::as_str` -/
def BackendScheme.asStr : BackendScheme → String
  | .http => "http"
  | .https => "https"

structure BackendEndpoint where
  scheme : BackendScheme
  authority : List Char
deriving DecidableEq, Repr

/-- `str::parse::<u16>`: an optional `+`, then decimal digits, at most `u16::MAX`. The code's checked arithmetic
overflows at some digit exactly when the whole value exceeds the maximum, as the value only grows digit by digit. -/
def parseU16 (s : List Char) : Option ℕ :=
  let digits := match s with
    | '+' :: rest => rest
    | _ => s
  if digits.isEmpty || !digits.all Char.isDigit then none
  else
    let value := digits.foldl (fun acc c => 10 * acc + (c.toNat - 48)) 0
    if value ≤ 65535 then some value else none

/-- `normalize_authority`: a host without a port gets the scheme's default port -/
def normalizeAuthority (authority : List Char) (scheme : BackendScheme) : List Char :=
  if authority.head? = some '[' then authority
  else if (rsplitOnce ':' authority).isNone then
    let defaultPort := match scheme with
      | .https => "443"
      | .http => "80"
    authority ++ ':' :: defaultPort.toList
  else authority

/-- `split_authority`: the slices `get(1..bracket_end)` and `get(bracket_end + 1..)` end at the ASCII `[` and `]`, so
they never fail -/
def splitAuthority (authority : List Char) : Option (List Char × List Char) :=
  if authority.head? = some '[' then
    (find ']' authority).bind fun bracketEnd =>
      (stripPrefix [':'] (authority.drop (bracketEnd + 1))).map fun port => ((authority.take bracketEnd).drop 1, port)
  else rsplitOnce ':' authority

/-- one iteration of the label loop of `validate_dns_hostname`; on a character `bytes().all(..)` fails for every
non-ASCII character, as testing the character does -/
def checkLabel (label : List Char) : Except String Unit :=
  if label.isEmpty then .error "backend host contains empty DNS label"
  else if (encode label).length > 63 then .error "backend host contains DNS label longer than 63 characters"
  else if label.head? = some '-' || label.getLast? = some '-' then
    .error "backend host DNS labels must not start or end with '-'"
  else if !label.all (fun c => isAsciiAlphanumeric c || c = '-') then
    .error "backend host contains invalid DNS label characters"
  else .ok ()

section Validate

variable (domainToAscii : List Char → Option (List Char)) (isIpAddr : List Char → Bool)

def validateDnsHostname (host : List Char) : Except String Unit :=
  let trimmed := trimChars host
  if trimmed.isEmpty then .error "backend host is empty"
  -- the fast path for `localhost` and IP literals; `||` does not parse when the host is `localhost`
  else if charsEqIgnoreAsciiCase trimmed "localhost".toList || isIpAddr trimmed then .ok ()
  else
    let withoutTrailingDot := trimEndMatches '.' trimmed
    if withoutTrailingDot.isEmpty then .error "backend host is invalid"
    else
      match domainToAscii withoutTrailingDot with
      | none => .error "backend host is not a valid IDNA/DNS hostname"
      | some ascii =>
        if (encode ascii).length > 253 then .error "backend host exceeds maximum length (253)"
        else (ascii.splitOn '.').forM checkLabel

/-- the host and port text `validate_authority` takes apart, bracketed or not -/
def hostAndPort (authority : List Char) : Except String (List Char × List Char) :=
  if authority.head? = some '[' then
    match find ']' authority with
    | none => .error "invalid IPv6 authority; missing closing ']'"
    | some bracketEnd =>
      let host := (authority.take bracketEnd).drop 1
      let suffix := authority.drop (bracketEnd + 1)
      if host.isEmpty then .error "backend host is empty"
      else if suffix.head? ≠ some ':' then .error "backend authority must include ':port'"
      else .ok (host, suffix.drop 1)
  else
    match rsplitOnce ':' authority with
    | none => .error "backend authority must be host:port"
    | some (host, port) =>
      if host.isEmpty then .error "backend host is empty"
      else if host.contains ':' then .error "IPv6 authorities must use brackets, e.g. [::1]:443"
      else .ok (host, port)

def validateAuthority (authority : List Char) : Except String Unit :=
  if authority.any isAsciiWhitespace then .error "backend authority must not contain whitespace"
  else
    (hostAndPort authority).bind fun (host, portStr) =>
      if host.isEmpty then .error "backend host is empty"
      else
        (validateDnsHostname domainToAscii isIpAddr host).bind fun () =>
          if portStr.isEmpty then .error "backend port is empty"
          else if !portStr.all Char.isDigit then .error "backend port must be numeric"
          else
            match parseU16 portStr with
            | none => .error "backend port must be in range 1-65535"
            | some port => if port = 0 then .error "backend port must be in range 1-65535" else .ok ()

/-- the scheme and the authority text after it -/
def splitScheme (raw : List Char) : Except String (BackendScheme × List Char) :=
  let lower := raw.map Char.toLower
  if "http://".toList.isPrefixOf lower then .ok (.http, raw.drop 7)
  else if "https://".toList.isPrefixOf lower then .ok (.https, raw.drop 8)
  else if containsSlice "://".toList raw then .error "unsupported URL scheme; use http:// or https://"
  else .ok (.https, raw)

def parse (raw : String) : Except String BackendEndpoint :=
  let raw := trimChars raw.toList
  if raw.isEmpty then .error "backend address is empty"
  else
    (splitScheme raw).bind fun (scheme, authority) =>
      if authority.isEmpty then .error "backend authority is empty"
      else if authority.contains '/' || authority.contains '?' || authority.contains '#' then
        .error "backend address must not include path, query, or fragment"
      else
        let authority := normalizeAuthority authority scheme
        (validateAuthority domainToAscii isIpAddr authority).map fun () => ⟨scheme, authority⟩

end Validate

namespace BackendEndpoint

def authorityHost (e : BackendEndpoint) : List Char := ((splitAuthority e.authority).map Prod.fst).getD []

def authorityPort (e : BackendEndpoint) : ℕ := ((splitAuthority e.authority).bind fun hp => parseU16 hp.2).getD 0

def origin (e : BackendEndpoint) : String := e.scheme.asStr ++ "://" ++ String.ofList e.authority

def uriForPath (e : BackendEndpoint) (path : String) : String :=
  if path.isEmpty then e.origin ++ "/"
  else if path.toList.head? = some '/' then e.origin ++ path
  else e.origin ++ "/" ++ path

end BackendEndpoint

/-! ## What a parsed endpoint is made of -/

/-- the parts of a valid authority: the host and port `split_authority` returns, the port a number in `1..=65535`,
and the authority the host, bracketed when it starts with `[`, then `:` and the port -/
structure ValidAuthority (authority host port : List Char) : Prop where
  split : splitAuthority authority = some (host, port)
  shape : authority = (if authority.head? = some '[' then '[' :: host ++ [']'] else host) ++ ':' :: port
  host_ne : host ≠ []
  port_ne : port ≠ []
  digits : ∀ c ∈ port, c.isDigit = true
  port_num : ∃ n, parseU16 port = some n ∧ n ≠ 0

theorem parseU16_le {s : List Char} {n : ℕ} (h : parseU16 s = some n) : n ≤ 65535 := by
  unfold parseU16 at h
  dsimp only at h
  split_ifs at h with hbad hle
  obtain rfl := Option.some.inj h
  exact hle

/-- the host and port of a bracketed authority -/
theorem hostAndPort_bracketed {authority host port : List Char} (hb : authority.head? = some '[')
    (h : hostAndPort authority = .ok (host, port)) :
    splitAuthority authority = some (host, port) ∧ authority = '[' :: host ++ ']' :: ':' :: port ∧ host ≠ [] := by
  obtain ⟨t, rfl⟩ : ∃ t, authority = '[' :: t := by
    cases authority with
    | nil => simp at hb
    | cons c t => exact ⟨t, by simp_all⟩
  unfold hostAndPort at h
  simp only [hb, if_true] at h
  split at h
  · simp at h
  · rename_i k hk
    -- the `]` is not the leading `[`, so it sits at `k' + 1` and the host is what lies between
    obtain ⟨k', rfl⟩ : ∃ k', k = k' + 1 := by
      cases k with
      | zero =>
        have := find_eq_some hk
        simp at this
      | succ k' => exact ⟨k', rfl⟩
    have hsplit := find_eq_some hk
    simp only [List.take_succ_cons, List.drop_succ_cons, List.drop_zero] at h hsplit
    split at h
    · simp at h
    · split at h
      · simp at h
      · rename_i hne hcolon
        obtain ⟨rfl, rfl⟩ := Prod.mk.inj (Except.ok.inj h)
        obtain ⟨rest, hrest⟩ : ∃ rest, t.drop (k' + 1) = ':' :: rest := by
          cases hd : t.drop (k' + 1) with
          | nil => simp [hd] at hcolon
          | cons c rest =>
            simp only [hd, List.head?_cons, ne_eq, Option.some.injEq, not_not] at hcolon
            exact ⟨rest, by rw [hcolon]⟩
        refine ⟨?_, ?_, by simpa using hne⟩
        · simp [splitAuthority, hk, hrest, stripPrefix, List.dropPrefix?]
        · rw [hrest] at hsplit
          rw [hrest, List.drop_one, List.tail_cons]
          simpa using hsplit

/-- `hostAndPort` takes the authority apart as `split_authority` does -/
theorem validAuthority_of_hostAndPort {authority host port : List Char}
    (h : hostAndPort authority = .ok (host, port)) (hport : port ≠ []) (hdigits : ∀ c ∈ port, c.isDigit = true)
    (hnum : ∃ n, parseU16 port = some n ∧ n ≠ 0) : ValidAuthority authority host port := by
  by_cases hb : authority.head? = some '['
  · obtain ⟨hsplit, hshape, hne⟩ := hostAndPort_bracketed hb h
    exact ⟨hsplit, by rw [if_pos hb]; simpa using hshape, hne, hport, hdigits, hnum⟩
  · unfold hostAndPort at h
    simp only [hb, if_false] at h
    split at h
    · simp at h
    · rename_i host' port' hr
      split at h
      · simp at h
      · split at h
        · simp at h
        · rename_i hne _
          obtain ⟨rfl, rfl⟩ := Prod.mk.inj (Except.ok.inj h)
          refine ⟨by simp [splitAuthority, hb, hr], ?_, by simpa using hne, hport, hdigits, hnum⟩
          rw [if_neg hb]
          exact rsplitOnce_eq_some hr

section Spec

variable {domainToAscii : List Char → Option (List Char)} {isIpAddr : List Char → Bool}

theorem validateAuthority_ok {authority : List Char} (h : validateAuthority domainToAscii isIpAddr authority = .ok ()) :
    ∃ host port, ValidAuthority authority host port := by
  unfold validateAuthority at h
  split at h
  · simp at h
  · cases hhp : hostAndPort authority with
    | error e => simp [hhp, Except.bind] at h
    | ok hp =>
      obtain ⟨host, port⟩ := hp
      simp only [hhp, Except.bind] at h
      split at h
      · simp at h
      · cases hv : validateDnsHostname domainToAscii isIpAddr host with
        | error e => simp [hv] at h
        | ok u =>
          simp only [hv] at h
          -- the port checks, in the code's order
          split at h
          · simp at h
          · rename_i hport
            split at h
            · simp at h
            · rename_i hdigits
              split at h
              · simp at h
              · rename_i n hn
                split at h
                · simp at h
                · rename_i hn0
                  refine ⟨host, port, validAuthority_of_hostAndPort hhp (by simpa using hport) ?_ ⟨n, hn, hn0⟩⟩
                  simpa using hdigits

/-- the authority `parse` returns passes `validate_authority` and holds no path, query or fragment -/
theorem parse_ok {raw : String} {e : BackendEndpoint} (h : parse domainToAscii isIpAddr raw = .ok e) :
    validateAuthority domainToAscii isIpAddr e.authority = .ok () ∧ '/' ∉ e.authority ∧ '?' ∉ e.authority ∧
      '#' ∉ e.authority := by
  unfold parse at h
  dsimp only at h
  split at h
  · simp at h
  · cases hs : splitScheme (trimChars raw.toList) with
    | error err => simp [hs, Except.bind] at h
    | ok sa =>
      obtain ⟨scheme, authority⟩ := sa
      simp only [hs, Except.bind] at h
      split at h
      · simp at h
      · split at h
        · simp at h
        · rename_i hpath
          cases hv : validateAuthority domainToAscii isIpAddr (normalizeAuthority authority scheme) with
          | error err => simp [hv, Except.map] at h
          | ok u =>
            simp only [hv, Except.map, Except.ok.injEq] at h
            subst h
            simp only [Bool.or_eq_true, List.contains_iff_mem, not_or] at hpath
            obtain ⟨⟨hslash, hq⟩, hhash⟩ := hpath
            -- the default port adds a colon and digits only
            have hkeep : ∀ c, c ∈ normalizeAuthority authority scheme → c ≠ ':' → c.isDigit = false → c ∈ authority := by
              intro c hc hcolon hdigit
              unfold normalizeAuthority at hc
              split at hc
              · exact hc
              · split at hc
                · rcases List.mem_append.1 hc with hc | hc
                  · exact hc
                  · cases scheme <;> simp at hc <;> rcases hc with rfl | rfl | rfl <;> simp_all
                · exact hc
            exact ⟨hv, fun hc => hslash (hkeep _ hc (by decide) rfl), fun hc => hq (hkeep _ hc (by decide) rfl),
              fun hc => hhash (hkeep _ hc (by decide) rfl)⟩

theorem normalizeAuthority_of_valid {authority host port : List Char} (hva : ValidAuthority authority host port)
    (scheme : BackendScheme) : normalizeAuthority authority scheme = authority := by
  unfold normalizeAuthority
  split
  · rfl
  · -- a valid authority has a colon, so no port is added
    have hcolon : ':' ∈ authority := by
      rw [hva.shape]
      simp
    have hsome : rsplitOnce ':' authority ≠ none := Option.isSome_iff_ne_none.1 (rsplitOnce_isSome_iff.2 hcolon)
    simp [Option.isNone_iff_eq_none, hsome]

/-- a valid authority ends with the last digit of its port -/
theorem ValidAuthority.getLast_isDigit {authority host port : List Char} (hva : ValidAuthority authority host port) :
    ∃ c, authority.getLast? = some c ∧ c.isDigit = true := by
  obtain ⟨c, hc⟩ : ∃ c, port.getLast? = some c := Option.isSome_iff_exists.1 (List.getLast?_isSome.2 hva.port_ne)
  refine ⟨c, ?_, hva.digits c (List.mem_of_getLast? hc)⟩
  rw [hva.shape]
  simp [List.getLast?_append, List.getLast?_cons, hc]

/-- the scheme prefix of an origin gives back the scheme and the authority -/
theorem splitScheme_origin (scheme : BackendScheme) (authority : List Char) :
    splitScheme (scheme.asStr.toList ++ "://".toList ++ authority) = .ok (scheme, authority) := by
  cases scheme with
  | http =>
    have hp : "http://".toList.isPrefixOf (("http".toList ++ "://".toList ++ authority).map Char.toLower) = true := by
      rw [List.map_append, List.isPrefixOf_iff_prefix]
      exact List.prefix_append _ _
    unfold splitScheme BackendScheme.asStr
    dsimp only
    rw [if_pos hp, List.drop_left' (by decide)]
  | https =>
    have hp : "https://".toList.isPrefixOf (("https".toList ++ "://".toList ++ authority).map Char.toLower) = true := by
      rw [List.map_append, List.isPrefixOf_iff_prefix]
      exact List.prefix_append _ _
    -- `http://` stops at the `s`
    have hnot : "http://".toList.isPrefixOf (("https".toList ++ "://".toList ++ authority).map Char.toLower) = false :=
      by rw [List.map_append]; rfl
    unfold splitScheme BackendScheme.asStr
    dsimp only
    rw [if_neg (by rw [hnot]; exact Bool.false_ne_true), if_pos hp, List.drop_left' (by decide)]

/-- the origin parses back to the endpoint -/
theorem parse_origin {raw : String} {e : BackendEndpoint} (h : parse domainToAscii isIpAddr raw = .ok e) :
    parse domainToAscii isIpAddr e.origin = .ok e := by
  obtain ⟨hv, hslash, hq, hhash⟩ := parse_ok h
  obtain ⟨host, port, hva⟩ := validateAuthority_ok hv
  obtain ⟨scheme, authority⟩ := e
  dsimp only at hv hslash hq hhash hva
  have horigin : (BackendEndpoint.origin ⟨scheme, authority⟩).toList =
      scheme.asStr.toList ++ "://".toList ++ authority := by
    simp [BackendEndpoint.origin]
  -- the origin starts with the scheme and ends with the port's last digit, so `trim` keeps it
  have htrim : trimChars (scheme.asStr.toList ++ "://".toList ++ authority) =
      scheme.asStr.toList ++ "://".toList ++ authority := by
    apply trimChars_eq_self
    · intro c hc
      have hh : (scheme.asStr.toList ++ "://".toList ++ authority).head? = some 'h' := by cases scheme <;> rfl
      rw [hh, Option.some.injEq] at hc
      subst hc
      rfl
    · intro c hc
      obtain ⟨d, hd, hdigit⟩ := hva.getLast_isDigit
      simp only [List.getLast?_append, hd, Option.some_or, Option.some.injEq] at hc
      exact hc ▸ isWhitespace_of_isDigit hdigit
  have hauth : authority.isEmpty = false := by
    rw [List.isEmpty_eq_false_iff, hva.shape]
    simp
  have hne : (scheme.asStr.toList ++ "://".toList ++ authority).isEmpty = false := by simp
  have hsplit := splitScheme_origin scheme authority
  generalize scheme.asStr.toList ++ "://".toList = pre at horigin htrim hne hsplit
  simp only [parse, horigin, htrim, hne, hsplit, Bool.false_eq_true, if_false, Except.bind, hauth,
    normalizeAuthority_of_valid hva, hv]
  simp [hslash, hq, hhash, Except.map]

/-- the accessors split a parsed authority into a non-empty host and a port in `1..=65535`, and the authority is the
host, bracketed when it starts with `[`, then `:` and the port's text -/
theorem parse_authority_parts {raw : String} {e : BackendEndpoint} (h : parse domainToAscii isIpAddr raw = .ok e) :
    e.authorityHost ≠ [] ∧ 1 ≤ e.authorityPort ∧ e.authorityPort ≤ 65535 ∧
      ∃ port, parseU16 port = some e.authorityPort ∧
        e.authority = (if e.authority.head? = some '[' then '[' :: e.authorityHost ++ [']'] else e.authorityHost) ++
          ':' :: port := by
  obtain ⟨hv, -⟩ := parse_ok h
  obtain ⟨host, port, hva⟩ := validateAuthority_ok hv
  obtain ⟨n, hn, hn0⟩ := hva.port_num
  have hhost : e.authorityHost = host := by simp [BackendEndpoint.authorityHost, hva.split]
  have hport : e.authorityPort = n := by simp [BackendEndpoint.authorityPort, hva.split, hn]
  rw [hhost, hport]
  exact ⟨hva.host_ne, Nat.one_le_iff_ne_zero.2 hn0, parseU16_le hn, port, hn, hva.shape⟩

end Spec

/-- `localhost:443`, which the `localhost` fast path accepts without either parser -/
def localhostEndpoint : BackendEndpoint := ⟨.https, "localhost:443".toList⟩

theorem localhost_origin_parses_back :
    parse (fun _ => none) (fun _ => false) localhostEndpoint.origin = .ok localhostEndpoint :=
  @parse_origin (fun _ => none) (fun _ => false) "localhost:443" localhostEndpoint rfl

theorem localhost_authority_parts :
    localhostEndpoint.authorityHost ≠ [] ∧ 1 ≤ localhostEndpoint.authorityPort ∧
      localhostEndpoint.authorityPort ≤ 65535 ∧
      ∃ port, parseU16 port = some localhostEndpoint.authorityPort ∧
        localhostEndpoint.authority =
          (if localhostEndpoint.authority.head? = some '[' then '[' :: localhostEndpoint.authorityHost ++ [']']
            else localhostEndpoint.authorityHost) ++ ':' :: port :=
  @parse_authority_parts (fun _ => none) (fun _ => false) "localhost:443" localhostEndpoint rfl

/-! ## Authorities the claim of canonical form does not hold for -/

/-- what every RFC 3986 `IP-literal` holds between its brackets: an `IPv6address` (the only text
`Ipv6Addr::from_str` accepts as well) is made of hex digits, colons and dots, and an `IPvFuture` starts with `v` -/
def IpLiteralShape (host : List Char) : Prop :=
  (∀ c ∈ host, isAsciiHexdigit c = true ∨ c = ':' ∨ c = '.') ∨ host.head? = some 'v' ∨ host.head? = some 'V'

-- the test runs over the host's characters: with all of Mathlib in scope, instance search would pick a decision
-- over every `Char` for the `∀`
instance (host : List Char) : Decidable (IpLiteralShape host) :=
  @instDecidableOr _ _ (List.decidableBAll _ host) inferInstance

/-- `l` is no hex digit, colon or dot, and no `v`: `localhost` has no `IP-literal` shape -/
theorem not_ipLiteralShape_localhost : ¬ IpLiteralShape "localhost".toList := by
  rintro (hall | hhead | hhead)
  · rcases hall 'l' (by decide) with h | h | h <;> exact absurd h (by decide)
  · exact absurd hhead (by decide)
  · exact absurd hhead (by decide)

/-- whatever the IDNA and IP parsers: the bracketed `[localhost]:443` is accepted as it stands, though its host is no
IP literal; and an authority that starts with non-ASCII whitespace keeps it, so that parsing the authority again
gives another endpoint -/
theorem parse_accepts_noncanonical_authority (domainToAscii : List Char → Option (List Char))
    (isIpAddr : List Char → Bool) :
    parse domainToAscii isIpAddr "[localhost]:443" = .ok ⟨.https, "[localhost]:443".toList⟩ ∧
      BackendEndpoint.authorityHost ⟨.https, "[localhost]:443".toList⟩ = "localhost".toList ∧
      ¬ IpLiteralShape "localhost".toList ∧
      parse domainToAscii isIpAddr "https://\u3000localhost:443" = .ok ⟨.https, "\u3000localhost:443".toList⟩ ∧
      parse domainToAscii isIpAddr "\u3000localhost:443" = .ok ⟨.https, "localhost:443".toList⟩ := by
  refine ⟨rfl, by decide, not_ipLiteralShape_localhost, rfl, rfl⟩

end Spooky.Config
