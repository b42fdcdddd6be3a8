/-
Load-balancing keys of a forwarded request (`crates/edge/src/quic_listener/forwarding/lb_key.rs`) and the key spec of
the runtime configuration (`RuntimeRequestKeySpec::normalize`, `crates/config/src/runtime/policies/lb.rs`).

Two resolvers compute the key. `resolve_lb_key` reads the raw spec text: it trims it and dispatches on it up to ASCII
case. `resolve_lb_key_for_runtime_request`, which `build_backend_selection_plan` calls in production, dispatches on the
spec that `normalize` made of the same text when the configuration was loaded. Both then fall back to the request's
CID under sticky-CID and to its authority, path or method otherwise.

Results:
- `resolveLbKeyFromParts_of_normalize`: on a spec that `normalize` accepts, the raw dispatch is the runtime dispatch
  on the normalized spec with its key name trimmed, for a header lookup that ignores ASCII case.
- `resolvers_agree`: the two resolvers give the same key and source wherever the normalized spec keeps what the raw
  resolver reads.
- `lb_key_resolvers_diverge`: they part in two places. Production builds the request parts with no client address, so
  `peer_ip` and `client_ip` always fall back; and `normalize` keeps the whitespace after the `:` of a `header:` spec
  in the key name, which the raw resolver trims off.
- `pair_extraction_stops_at_bare_part`: `extract_cookie_value` and `extract_query_param` are the value of the first
  `name=value` pair with the wanted name over the parts before the first non-blank part without `=`, where the
  `split_once('=')?` of their loops ends the scan; a flag such as `debug` in `?debug&user=1` hides every pair after it.

Text is a list of characters. A header lookup is any function from names to values. The address's
`ip().to_string()` is a parameter: nothing here depends on how std prints an address.
-/
import Spooky.Lib.Text
import Spooky.Lb.Alternate

namespace Spooky.Edge

open Text Spooky.Lb

/-! ## The normalized spec -/

inductive RuntimeRequestKeySpec where
  | path
  | authority
  | method
  | cid
  | stickyCid
  | peerIp
  | clientIp
  | bearerToken
  | header (name : List Char)
  | cookie (name : List Char)
  | query (name : List Char)
deriving DecidableEq, Repr

namespace RuntimeRequestKeySpec

/-- the `ConfigInvalid` message of every spec that `normalize` refuses -/
def unsupportedMessage (raw : List Char) : String :=
  "unsupported request key spec \x27" ++ String.ofList raw ++ "\x27"

/-- `RuntimeRequestKeySpec::normalize`: the spec trimmed and lower-cased is one of eight words or `source:name` -/
def normalize (raw : List Char) : Except String RuntimeRequestKeySpec :=
  let normalized := (trimChars raw).map Char.toLower
  if normalized = "path".toList then .ok .path
  else if normalized = "authority".toList then .ok .authority
  else if normalized = "method".toList then .ok .method
  else if normalized = "cid".toList then .ok .cid
  else if normalized = "sticky-cid".toList then .ok .stickyCid
  else if normalized = "peer_ip".toList then .ok .peerIp
  else if normalized = "client_ip".toList then .ok .clientIp
  else if normalized = "bearer_token".toList then .ok .bearerToken
  else
    match splitOnce ':' normalized with
    | none => .error (unsupportedMessage raw)
    | some (source, keyName) =>
      if (trimChars keyName).isEmpty then .error (unsupportedMessage raw)
      else if source = "header".toList then .ok (.header keyName)
      else if source = "cookie".toList then .ok (.cookie keyName)
      else if source = "query".toList then .ok (.query keyName)
      else .error (unsupportedMessage raw)

/-- the spec with `f` applied to the key name of a `header:`, `cookie:` or `query:` spec -/
def mapName (f : List Char → List Char) : RuntimeRequestKeySpec → RuntimeRequestKeySpec
  | .header name => .header (f name)
  | .cookie name => .cookie (f name)
  | .query name => .query (f name)
  | k => k

end RuntimeRequestKeySpec

/-! ## Requests and resolved keys -/

/-- `LbKeyRequestParts`: what the resolvers read of a request -/
structure LbKeyRequestParts (Addr : Type) where
  method : List Char
  path : List Char
  authority : Option (List Char)
  cidKey : Option (List Char)
  clientAddr : Option Addr
  headerLookup : Option (List Char → Option (List Char))

structure LbKeyResolutionInput (Addr : Type) where
  lbType : List Char
  lbKeySpec : Option (List Char)
  request : LbKeyRequestParts Addr

/-- `RouteResolutionRequest`: the request as routing sees it, with no client address -/
structure RouteResolutionRequest where
  method : List Char
  path : List Char
  authority : Option (List Char)
  cidKey : Option (List Char)
  headerLookup : Option (List Char → Option (List Char))

inductive LbKeySource where
  | configuredSpec
  | stickyCidFallback
  | defaultFallback
deriving DecidableEq, Repr

structure ResolvedLbKey where
  value : List Char
  source : LbKeySource
deriving DecidableEq, Repr

/-- a header lookup that finds a name up to ASCII case, as an HTTP header map does -/
def CaseInsensitive (lookup : List Char → Option (List Char)) : Prop :=
  ∀ a b, a.map Char.toLower = b.map Char.toLower → lookup a = lookup b

/-! ## Cookies, query parameters and bearer tokens -/

/-- the loop of `extract_cookie_value` over the `;`-separated parts: the `split_once('=')?` in it gives up on the whole
header at the first non-empty part without `=` -/
def cookieScan (cookieName : List Char) : List (List Char) → Option (List Char)
  | [] => none
  | pair :: pairs =>
    let part := trimChars pair
    if part.isEmpty then cookieScan cookieName pairs
    else
      match splitOnce '=' part with
      | none => none
      | some (name, value) =>
        if charsEqIgnoreAsciiCase (trimChars name) cookieName then
          let value := trimChars value
          if value.isEmpty then none else some value
        else cookieScan cookieName pairs

def extractCookieValue (cookieHeader cookieName : List Char) : Option (List Char) :=
  cookieScan cookieName (cookieHeader.splitOn ';')

/-- the loop of `extract_query_param` over the `&`-separated entries, which gives up the same way -/
def queryScan (param : List Char) : List (List Char) → Option (List Char)
  | [] => none
  | pair :: pairs =>
    let entry := trimChars pair
    if entry.isEmpty then queryScan param pairs
    else
      match splitOnce '=' entry with
      | none => none
      | some (name, value) =>
        if charsEqIgnoreAsciiCase name param && !value.isEmpty then some value else queryScan param pairs

def extractQueryParam (path param : List Char) : Option (List Char) :=
  (splitOnce '?' path).bind fun parts => queryScan param (parts.2.splitOn '&')

def bearerTokenFromAuthorizationValue (raw : List Char) : Option (List Char) :=
  let raw := trimChars raw
  (raw.findIdx? isWhitespace).bind fun split =>
    let (scheme, rest) := raw.splitAt split
    if !charsEqIgnoreAsciiCase scheme "bearer".toList then none
    else
      let token := rest.dropWhile isWhitespace
      if token.isEmpty then none else some token

section CaseOfName

variable {name name' : List Char} (hname : name.map Char.toLower = name'.map Char.toLower)
include hname

theorem cookieScan_congr (pairs : List (List Char)) : cookieScan name pairs = cookieScan name' pairs := by
  induction pairs with
  | nil => rfl
  | cons pair pairs ih => simp only [cookieScan, charsEqIgnoreAsciiCase_congr hname, ih]

theorem queryScan_congr (pairs : List (List Char)) : queryScan name pairs = queryScan name' pairs := by
  induction pairs with
  | nil => rfl
  | cons pair pairs ih => simp only [queryScan, charsEqIgnoreAsciiCase_congr hname, ih]

/-- both extractors compare the name up to ASCII case, so they see it only through its lower case -/
theorem extractCookieValue_congr (cookieHeader : List Char) :
    extractCookieValue cookieHeader name = extractCookieValue cookieHeader name' :=
  cookieScan_congr hname _

theorem extractQueryParam_congr (path : List Char) : extractQueryParam path name = extractQueryParam path name' := by
  unfold extractQueryParam
  simp only [queryScan_congr hname]

end CaseOfName

/-! ## The pair semantics of cookies and query strings

A cookie header and a query string read as `name=value` pairs: the key is the value of the first pair with the wanted
name, and a part without `=` is no pair. The two scans are that search over the parts before the first non-blank part
without `=` (`cookieScan_eq_takeWhile`, `queryScan_eq_takeWhile`), since the `split_once('=')?` in their loops ends
the whole scan there: such a part hides every pair after it.
-/

/-- the `name=value` pairs among parts, each trimmed; a part without `=` holds none -/
def pairsOf (parts : List (List Char)) : List (List Char × List Char) :=
  parts.filterMap fun part => splitOnce '=' (trimChars part)

/-- the trimmed value of the first pair whose trimmed name is `cookieName` up to ASCII case, unless it is empty -/
def cookieValueOf (cookieName : List Char) (pairs : List (List Char × List Char)) : Option (List Char) :=
  (pairs.find? fun p => charsEqIgnoreAsciiCase (trimChars p.1) cookieName).bind fun p =>
    let value := trimChars p.2
    if value.isEmpty then none else some value

/-- the value of the first pair whose name is `param` up to ASCII case and whose value is not empty -/
def queryValueOf (param : List Char) (pairs : List (List Char × List Char)) : Option (List Char) :=
  (pairs.find? fun p => charsEqIgnoreAsciiCase p.1 param && !p.2.isEmpty).map Prod.snd

/-- the pair semantics of a cookie header, over its `;`-separated parts -/
def cookiePairValue (cookieHeader cookieName : List Char) : Option (List Char) :=
  cookieValueOf cookieName (pairsOf (cookieHeader.splitOn ';'))

/-- the pair semantics of a query, over the `&`-separated entries after the path's first `?` -/
def queryPairValue (path param : List Char) : Option (List Char) :=
  (splitOnce '?' path).bind fun parts => queryValueOf param (pairsOf (parts.2.splitOn '&'))

/-- a part the scans get past: blank once trimmed, or holding an `=` -/
def isPairOrBlank (part : List Char) : Bool := (trimChars part).isEmpty || (trimChars part).contains '='

/-- a blank part holds no pair, so the scans' skip of it is the search's -/
theorem splitOnce_trimChars_of_isEmpty {part : List Char} (h : (trimChars part).isEmpty = true) :
    splitOnce '=' (trimChars part) = none := by
  rw [List.isEmpty_iff.1 h]
  rfl

/-- the scans get past a part exactly when it is blank or holds an `=` -/
theorem passes_scan_eq :
    Fallible.passes (fun part => (trimChars part).isEmpty) (fun part => splitOnce '=' (trimChars part)) =
      isPairOrBlank := by
  funext part
  have hsome : (splitOnce '=' (trimChars part)).isSome = (trimChars part).contains '=' :=
    Bool.eq_iff_iff.2 (by rw [splitOnce_isSome_iff, List.contains_iff_mem])
  rw [Fallible.passes, isPairOrBlank, hsome]

theorem splitOnce_of_not_isPairOrBlank {part : List Char} (h : isPairOrBlank part = false) :
    splitOnce '=' (trimChars part) = none := by
  rw [← passes_scan_eq, Fallible.passes, Bool.or_eq_false_iff] at h
  simpa using h.2

/-- `extract_cookie_value`'s loop is the search of `Fallible` for the cookie's name -/
theorem cookieScan_eq_searchFirst (cookieName : List Char) (parts : List (List Char)) :
    cookieScan cookieName parts =
      Fallible.searchFirst (fun part => (trimChars part).isEmpty) (fun part => splitOnce '=' (trimChars part))
        (fun p => charsEqIgnoreAsciiCase (trimChars p.1) cookieName)
        (fun p => let value := trimChars p.2; if value.isEmpty then none else some value) parts := by
  induction parts with
  | nil => rfl
  | cons part parts ih =>
    simp only [cookieScan, Fallible.searchFirst, ih]
    cases splitOnce '=' (trimChars part) <;> rfl

/-- `extract_query_param`'s loop is the search of `Fallible` for the parameter's name with a value -/
theorem queryScan_eq_searchFirst (param : List Char) (parts : List (List Char)) :
    queryScan param parts =
      Fallible.searchFirst (fun part => (trimChars part).isEmpty) (fun part => splitOnce '=' (trimChars part))
        (fun p => charsEqIgnoreAsciiCase p.1 param && !p.2.isEmpty) (fun p => some p.2) parts := by
  induction parts with
  | nil => rfl
  | cons part parts ih =>
    simp only [queryScan, Fallible.searchFirst, ih]
    cases splitOnce '=' (trimChars part) <;> rfl

/-- the cookie scan is the pair semantics over the parts before the first non-blank part without `=` -/
theorem cookieScan_eq_takeWhile (cookieName : List Char) (parts : List (List Char)) :
    cookieScan cookieName parts = cookieValueOf cookieName (pairsOf (parts.takeWhile isPairOrBlank)) := by
  rw [cookieScan_eq_searchFirst, Fallible.searchFirst_eq (fun _ => splitOnce_trimChars_of_isEmpty), passes_scan_eq]
  rfl

/-- the query scan is the pair semantics over the entries before the first non-blank entry without `=` -/
theorem queryScan_eq_takeWhile (param : List Char) (parts : List (List Char)) :
    queryScan param parts = queryValueOf param (pairsOf (parts.takeWhile isPairOrBlank)) := by
  rw [queryScan_eq_searchFirst, Fallible.searchFirst_eq (fun _ => splitOnce_trimChars_of_isEmpty), passes_scan_eq,
    queryValueOf, Option.map_eq_bind]
  rfl

theorem pairsOf_cons_of_not_isPairOrBlank {part : List Char} (h : isPairOrBlank part = false)
    (parts : List (List Char)) : pairsOf (part :: parts) = pairsOf parts := by
  simp [pairsOf, splitOnce_of_not_isPairOrBlank h]

/-- a bare part in front of a cookie header hides the whole header from `extract_cookie_value`, and nothing from the
pair semantics -/
theorem extractCookieValue_bare {bare : List Char} (hsep : ';' ∉ bare) (hbare : isPairOrBlank bare = false)
    (cookieHeader cookieName : List Char) :
    extractCookieValue (bare ++ ';' :: cookieHeader) cookieName = none ∧
      cookiePairValue (bare ++ ';' :: cookieHeader) cookieName = cookiePairValue cookieHeader cookieName := by
  have hsplit := splitOn_append_cons hsep cookieHeader
  constructor
  · rw [extractCookieValue, hsplit, cookieScan_eq_takeWhile, List.takeWhile_cons_of_neg (by simp [hbare])]
    rfl
  · rw [cookiePairValue, cookiePairValue, hsplit, pairsOf_cons_of_not_isPairOrBlank hbare]

/-- a bare entry at the head of a query hides the whole query from `extract_query_param`, and nothing from the pair
semantics -/
theorem extractQueryParam_bare {path bare : List Char} (hpath : '?' ∉ path) (hsep : '&' ∉ bare)
    (hbare : isPairOrBlank bare = false) (query param : List Char) :
    extractQueryParam (path ++ '?' :: (bare ++ '&' :: query)) param = none ∧
      queryPairValue (path ++ '?' :: (bare ++ '&' :: query)) param = queryPairValue (path ++ '?' :: query) param := by
  have hsplit := splitOn_append_cons hsep query
  constructor
  · rw [extractQueryParam, splitOnce_append_cons hpath, Option.bind_some, hsplit, queryScan_eq_takeWhile,
      List.takeWhile_cons_of_neg (by simp [hbare])]
    rfl
  · rw [queryPairValue, queryPairValue, splitOnce_append_cons hpath, splitOnce_append_cons hpath, Option.bind_some,
      Option.bind_some, hsplit, pairsOf_cons_of_not_isPairOrBlank hbare]

/-- **The extractors stop at a bare part.** Each is the pair semantics over the parts before the first non-blank
part without `=`; so a bare part in front of a cookie header or of a query leaves the pair semantics as it is and
turns the extractor to `none`. -/
theorem pair_extraction_stops_at_bare_part :
    (∀ cookieHeader cookieName : List Char, extractCookieValue cookieHeader cookieName =
      cookieValueOf cookieName (pairsOf ((cookieHeader.splitOn ';').takeWhile isPairOrBlank))) ∧
    (∀ path param : List Char, extractQueryParam path param =
      (splitOnce '?' path).bind fun parts => queryValueOf param (pairsOf ((parts.2.splitOn '&').takeWhile isPairOrBlank))) ∧
    (∀ bare : List Char, ';' ∉ bare → isPairOrBlank bare = false → ∀ cookieHeader cookieName : List Char,
      extractCookieValue (bare ++ ';' :: cookieHeader) cookieName = none ∧
        cookiePairValue (bare ++ ';' :: cookieHeader) cookieName = cookiePairValue cookieHeader cookieName) ∧
    (∀ path bare : List Char, '?' ∉ path → '&' ∉ bare → isPairOrBlank bare = false → ∀ query param : List Char,
      extractQueryParam (path ++ '?' :: (bare ++ '&' :: query)) param = none ∧
        queryPairValue (path ++ '?' :: (bare ++ '&' :: query)) param = queryPairValue (path ++ '?' :: query) param) := by
  refine ⟨fun cookieHeader cookieName => cookieScan_eq_takeWhile cookieName _, fun path param => ?_,
    fun _ hsep hbare => extractCookieValue_bare hsep hbare, fun _ _ hpath hsep hbare => extractQueryParam_bare hpath hsep hbare⟩
  unfold extractQueryParam
  simp only [queryScan_eq_takeWhile]

/-- the flag `debug` hides `user=1` from `extract_query_param`, and the valueless cookie `theme` hides `session=abc`
from `extract_cookie_value`, where the pair semantics finds both -/
example :
    extractQueryParam "/items?debug&user=1".toList "user".toList = none ∧
      queryPairValue "/items?debug&user=1".toList "user".toList = some "1".toList ∧
      extractCookieValue "theme; session=abc".toList "session".toList = none ∧
      cookiePairValue "theme; session=abc".toList "session".toList = some "abc".toList := by
  decide

/-! ## The resolvers -/

section Resolve

variable {Addr : Type} (ipString : Addr → List Char)

def resolveLbKeyFromRuntimeParts (lbKeySpec : RuntimeRequestKeySpec) (request : LbKeyRequestParts Addr) :
    Option (List Char) :=
  match lbKeySpec with
  | .path => some (((splitOnce '?' request.path).map Prod.fst).getD request.path)
  | .authority => request.authority
  | .method => some request.method
  | .cid | .stickyCid => request.cidKey
  | .peerIp | .clientIp => request.clientAddr.map ipString
  | .bearerToken =>
    (request.headerLookup.bind fun lookup => lookup "authorization".toList).bind bearerTokenFromAuthorizationValue
  | .header keyName => request.headerLookup.bind fun lookup => lookup keyName
  | .cookie cookieName =>
    (request.headerLookup.bind fun lookup => lookup "cookie".toList).bind fun cookieHeader =>
      extractCookieValue cookieHeader cookieName
  | .query param => extractQueryParam request.path param

def resolveLbKeyFromParts (lbKeySpec : List Char) (request : LbKeyRequestParts Addr) : Option (List Char) :=
  let spec := trimChars lbKeySpec
  if spec.isEmpty then none
  else if charsEqIgnoreAsciiCase spec "path".toList then
    some (((splitOnce '?' request.path).map Prod.fst).getD request.path)
  else if charsEqIgnoreAsciiCase spec "authority".toList then request.authority
  else if charsEqIgnoreAsciiCase spec "method".toList then some request.method
  else if charsEqIgnoreAsciiCase spec "cid".toList || charsEqIgnoreAsciiCase spec "sticky-cid".toList then
    request.cidKey
  else if charsEqIgnoreAsciiCase spec "peer_ip".toList || charsEqIgnoreAsciiCase spec "client_ip".toList then
    request.clientAddr.map ipString
  else if charsEqIgnoreAsciiCase spec "bearer_token".toList then
    (request.headerLookup.bind fun lookup => lookup "authorization".toList).bind bearerTokenFromAuthorizationValue
  else
    match splitOnce ':' spec with
    | none => none
    | some (source, keyName) =>
      let keyName := trimChars keyName
      if keyName.isEmpty then none
      else if charsEqIgnoreAsciiCase source "header".toList then
        request.headerLookup.bind fun lookup => lookup keyName
      else if charsEqIgnoreAsciiCase source "cookie".toList then
        (request.headerLookup.bind fun lookup => lookup "cookie".toList).bind fun cookieHeader =>
          extractCookieValue cookieHeader keyName
      else if charsEqIgnoreAsciiCase source "query".toList then extractQueryParam request.path keyName
      else none

def defaultLbRequestKeyForParts (request : LbKeyRequestParts Addr) : List Char :=
  request.authority.getD (if !request.path.isEmpty then request.path else request.method)

/-- what both resolvers do with the key their dispatch found: take it when it is not empty, else the CID when the
strategy is sticky-CID, else the default key -/
def resolveWith (configured : Option (List Char)) (sticky : Bool) (request : LbKeyRequestParts Addr) :
    ResolvedLbKey :=
  let defaultKey := defaultLbRequestKeyForParts request
  match configured.filter fun value => !value.isEmpty with
  | some value => ⟨value, .configuredSpec⟩
  | none =>
    match sticky, request.cidKey with
    | true, some cidKey => ⟨cidKey, .stickyCidFallback⟩
    | _, _ => ⟨defaultKey, .defaultFallback⟩

def resolveLbKeyForInput (input : LbKeyResolutionInput Addr) : ResolvedLbKey :=
  resolveWith (input.lbKeySpec.bind fun spec => resolveLbKeyFromParts ipString spec input.request)
    (decide (input.lbType = "sticky-cid".toList)) input.request

def resolveLbKeyForRuntimeInput (lbStrategy : RuntimeLoadBalancingStrategy)
    (lbKeySpec : Option RuntimeRequestKeySpec) (request : LbKeyRequestParts Addr) : ResolvedLbKey :=
  resolveWith (lbKeySpec.bind fun spec => resolveLbKeyFromRuntimeParts ipString spec request)
    (decide (lbStrategy = .stickyCid)) request

def resolveLbKey (lbType : List Char) (lbKeySpec : Option (List Char)) (method path : List Char)
    (authority cidKey : Option (List Char)) (clientAddr : Option Addr)
    (headerLookup : Option (List Char → Option (List Char))) : ResolvedLbKey :=
  resolveLbKeyForInput ipString ⟨lbType, lbKeySpec, ⟨method, path, authority, cidKey, clientAddr, headerLookup⟩⟩

/-- `resolve_lb_key_for_runtime_request`: the request parts carry no client address -/
def resolveLbKeyForRuntimeRequest (lbStrategy : RuntimeLoadBalancingStrategy)
    (lbKeySpec : Option RuntimeRequestKeySpec) (request : RouteResolutionRequest) : ResolvedLbKey :=
  resolveLbKeyForRuntimeInput ipString lbStrategy lbKeySpec
    ⟨request.method, request.path, request.authority, request.cidKey, none, request.headerLookup⟩

/-! ## The shared tail -/

theorem resolveWith_of_ne_nil {value : List Char} (h : value ≠ []) (sticky : Bool) (request : LbKeyRequestParts Addr) :
    resolveWith (some value) sticky request = ⟨value, .configuredSpec⟩ := by
  have hne : (!value.isEmpty) = true := by simpa using h
  simp only [resolveWith, Option.filter_some, hne, if_true]

/-- with no key from the dispatch the key is a fallback -/
theorem resolveWith_none_source (sticky : Bool) (request : LbKeyRequestParts Addr) :
    (resolveWith none sticky request).source ≠ .configuredSpec := by
  unfold resolveWith
  cases sticky <;> cases request.cidKey <;> simp

/-- the tail reads no client address -/
theorem resolveWith_clientAddr (configured : Option (List Char)) (sticky : Bool) (request : LbKeyRequestParts Addr)
    (clientAddr : Option Addr) :
    resolveWith configured sticky { request with clientAddr } = resolveWith configured sticky request := rfl

/-- the runtime dispatch reads the client address only for `peer_ip` and `client_ip` -/
theorem resolveLbKeyFromRuntimeParts_clientAddr {k : RuntimeRequestKeySpec} (hpeer : k ≠ .peerIp)
    (hclient : k ≠ .clientIp) (request : LbKeyRequestParts Addr) (clientAddr : Option Addr) :
    resolveLbKeyFromRuntimeParts ipString k { request with clientAddr } =
      resolveLbKeyFromRuntimeParts ipString k request := by
  cases k with
  | peerIp => exact absurd rfl hpeer
  | clientIp => exact absurd rfl hclient
  | _ => rfl

/-! ## The raw dispatch against the normalized one -/

namespace RuntimeRequestKeySpec

/-- `normalize` refuses a spec that is empty once trimmed -/
theorem trimChars_ne_nil_of_normalize {raw : List Char} {k : RuntimeRequestKeySpec} (h : normalize raw = .ok k) :
    (trimChars raw).isEmpty = false := by
  cases ht : trimChars raw with
  | nil => simp [normalize, ht, splitOnce] at h
  | cons c cs => rfl

end RuntimeRequestKeySpec

open RuntimeRequestKeySpec in
/-- on a spec that `normalize` accepts, the raw dispatch is the runtime dispatch on the normalized spec with its key
name trimmed: the two test the same words in the same order, and a key name's case does not matter to a lookup that
ignores it nor to the cookie and query extractors -/
theorem resolveLbKeyFromParts_of_normalize {raw : List Char} {k : RuntimeRequestKeySpec} (h : normalize raw = .ok k)
    (request : LbKeyRequestParts Addr) (hlookup : ∀ lookup ∈ request.headerLookup, CaseInsensitive lookup) :
    resolveLbKeyFromParts ipString raw request = resolveLbKeyFromRuntimeParts ipString (k.mapName trimChars) request := by
  have hne := trimChars_ne_nil_of_normalize h
  simp only [RuntimeRequestKeySpec.normalize] at h
  unfold resolveLbKeyFromParts
  simp only [hne, Bool.false_eq_true, if_false]
  -- every word the raw dispatch tests is lower case, so it tests the lower case of the spec as `normalize` does
  have hword : ∀ w : String, w.toList.map Char.toLower = w.toList →
      charsEqIgnoreAsciiCase (trimChars raw) w.toList = decide ((trimChars raw).map Char.toLower = w.toList) :=
    fun w hw => charsEqIgnoreAsciiCase_lower hw
  rw [hword "path" (by decide), hword "authority" (by decide), hword "method" (by decide), hword "cid" (by decide),
    hword "sticky-cid" (by decide), hword "peer_ip" (by decide), hword "client_ip" (by decide),
    hword "bearer_token" (by decide)]
  generalize hn : (trimChars raw).map Char.toLower = n at h
  simp only [decide_eq_true_eq, Bool.or_eq_true]
  -- the eight words, tested in the same order on both sides
  by_cases hpath : n = "path".toList
  · rw [if_pos hpath] at h ⊢
    cases h
    rfl
  rw [if_neg hpath] at h ⊢
  by_cases hauth : n = "authority".toList
  · rw [if_pos hauth] at h ⊢
    cases h
    rfl
  rw [if_neg hauth] at h ⊢
  by_cases hmethod : n = "method".toList
  · rw [if_pos hmethod] at h ⊢
    cases h
    rfl
  rw [if_neg hmethod] at h ⊢
  by_cases hcid : n = "cid".toList
  · rw [if_pos hcid] at h
    rw [if_pos (Or.inl hcid)]
    cases h
    rfl
  rw [if_neg hcid] at h
  by_cases hsticky : n = "sticky-cid".toList
  · rw [if_pos hsticky] at h
    rw [if_pos (Or.inr hsticky)]
    cases h
    rfl
  rw [if_neg hsticky] at h
  rw [if_neg (not_or.2 ⟨hcid, hsticky⟩)]
  by_cases hpeer : n = "peer_ip".toList
  · rw [if_pos hpeer] at h
    rw [if_pos (Or.inl hpeer)]
    cases h
    rfl
  rw [if_neg hpeer] at h
  by_cases hclient : n = "client_ip".toList
  · rw [if_pos hclient] at h
    rw [if_pos (Or.inr hclient)]
    cases h
    rfl
  rw [if_neg hclient] at h
  rw [if_neg (not_or.2 ⟨hpeer, hclient⟩)]
  by_cases hbearer : n = "bearer_token".toList
  · rw [if_pos hbearer] at h ⊢
    cases h
    rfl
  rw [if_neg hbearer] at h ⊢
  -- `source:name`: `normalize` splits the lower case at the same `:`
  rw [← hn, splitOnce_map_toLower (by decide) (by decide)] at h
  cases hs : splitOnce ':' (trimChars raw) with
  | none =>
    rw [hs] at h
    cases h
  | some parts =>
    obtain ⟨source, keyName⟩ := parts
    rw [hs] at h
    simp only [Option.map_some, trimChars_map_toLower, List.isEmpty_map] at h
    have hsource : ∀ w : String, w.toList.map Char.toLower = w.toList →
        charsEqIgnoreAsciiCase source w.toList = decide (source.map Char.toLower = w.toList) :=
      fun w hw => charsEqIgnoreAsciiCase_lower hw
    simp only [hsource "header" (by decide), hsource "cookie" (by decide), hsource "query" (by decide),
      decide_eq_true_eq]
    by_cases hk : (trimChars keyName).isEmpty = true
    · rw [if_pos hk] at h
      cases h
    rw [if_neg hk] at h ⊢
    -- the key name differs from the normalized one only in case
    have hcase : (trimChars keyName).map Char.toLower = ((trimChars keyName).map Char.toLower).map Char.toLower :=
      (map_toLower_toLower _).symm
    by_cases hheader : source.map Char.toLower = "header".toList
    · rw [if_pos hheader] at h ⊢
      cases h
      simp only [mapName, resolveLbKeyFromRuntimeParts, trimChars_map_toLower]
      cases hl : request.headerLookup with
      | none => rfl
      | some lookup => exact hlookup lookup hl _ _ hcase
    rw [if_neg hheader] at h ⊢
    by_cases hcookie : source.map Char.toLower = "cookie".toList
    · rw [if_pos hcookie] at h ⊢
      cases h
      simp only [mapName, resolveLbKeyFromRuntimeParts, trimChars_map_toLower, extractCookieValue_congr hcase]
    rw [if_neg hcookie] at h ⊢
    by_cases hquery : source.map Char.toLower = "query".toList
    · rw [if_pos hquery] at h ⊢
      cases h
      simp only [mapName, resolveLbKeyFromRuntimeParts, trimChars_map_toLower, extractQueryParam_congr hcase]
    rw [if_neg hquery] at h
    cases h

/-- a key name with no whitespace in it -/
theorem trimChars_of_forall_not_isWhitespace {name : List Char} (h : ∀ c ∈ name, isWhitespace c = false) :
    trimChars name = name := by
  apply trimChars_eq_self
  · intro c hc
    exact h c (List.mem_of_mem_head? hc)
  · intro c hc
    exact h c (List.mem_of_getLast? hc)

/-- `normalize` keeps the space after the `:` of `header: name` in the key name -/
theorem normalize_header_space {name : List Char} (hne : name ≠ []) (hname : ∀ c ∈ name, isWhitespace c = false) :
    RuntimeRequestKeySpec.normalize ("header: ".toList ++ name) = .ok (.header (' ' :: name.map Char.toLower)) := by
  have htrim : trimChars ("header: ".toList ++ name) = "header: ".toList ++ name := by
    apply trimChars_eq_self
    · intro c hc
      cases hc
      rfl
    · intro c hc
      rw [List.getLast?_append_of_ne_nil _ hne] at hc
      exact hname c (List.mem_of_getLast? hc)
  have hlow : ("header: ".toList ++ name).map Char.toLower = "header".toList ++ ':' :: ' ' :: name.map Char.toLower := by
    rw [List.map_append]
    rfl
  have hkey : (trimChars (' ' :: name.map Char.toLower)).isEmpty = false := by
    rw [trimChars_cons_of_isWhitespace (by decide), trimChars_map_toLower, trimChars_of_forall_not_isWhitespace hname]
    simpa using hne
  simp only [RuntimeRequestKeySpec.normalize, htrim, hlow]
  -- the spec starts with `h`, which no word does
  rw [if_neg (by simp), if_neg (by simp), if_neg (by simp), if_neg (by simp), if_neg (by simp), if_neg (by simp),
    if_neg (by simp), if_neg (by simp), splitOnce_append_cons (by decide)]
  simp only [hkey, Bool.false_eq_true, if_false, if_true]

/-! ## The two resolvers -/

/-- the configured key of the runtime resolver, from the raw dispatch at any client address, for a spec whose key
name `normalize` left trimmed and that reads no client address -/
theorem resolveLbKeyFromRuntimeParts_eq_raw {raw : List Char} {k : RuntimeRequestKeySpec}
    (hk : RuntimeRequestKeySpec.normalize raw = .ok k) (hname : k.mapName trimChars = k) (hpeer : k ≠ .peerIp)
    (hclient : k ≠ .clientIp) (request : LbKeyRequestParts Addr)
    (hlookup : ∀ lookup ∈ request.headerLookup, CaseInsensitive lookup) (clientAddr : Option Addr) :
    resolveLbKeyFromRuntimeParts ipString k { request with clientAddr } = resolveLbKeyFromParts ipString raw request := by
  calc resolveLbKeyFromRuntimeParts ipString k { request with clientAddr }
      = resolveLbKeyFromRuntimeParts ipString k request :=
        resolveLbKeyFromRuntimeParts_clientAddr ipString hpeer hclient request clientAddr
    _ = resolveLbKeyFromRuntimeParts ipString (k.mapName trimChars) request := by rw [hname]
    _ = resolveLbKeyFromParts ipString raw request := (resolveLbKeyFromParts_of_normalize ipString hk request hlookup).symm

/-- where the normalized spec keeps what the raw resolver reads (its key name trimmed, and no client address read),
production's resolver gives the key and source that `resolve_lb_key` gives on the raw spec, at any client address -/
theorem resolvers_agree {raw : List Char} {k : RuntimeRequestKeySpec}
    (hk : RuntimeRequestKeySpec.normalize raw = .ok k) (hname : k.mapName trimChars = k) (hpeer : k ≠ .peerIp)
    (hclient : k ≠ .clientIp) {strategy : RuntimeLoadBalancingStrategy} {lbType : List Char}
    (hsticky : lbType = "sticky-cid".toList ↔ strategy = .stickyCid) (request : RouteResolutionRequest)
    (hlookup : ∀ lookup ∈ request.headerLookup, CaseInsensitive lookup) (clientAddr : Addr) :
    resolveLbKeyForRuntimeRequest ipString strategy (some k) request =
      resolveLbKey ipString lbType (some raw) request.method request.path request.authority request.cidKey
        (some clientAddr) request.headerLookup := by
  let parts : LbKeyRequestParts Addr :=
    ⟨request.method, request.path, request.authority, request.cidKey, some clientAddr, request.headerLookup⟩
  have hconf := resolveLbKeyFromRuntimeParts_eq_raw ipString hk hname hpeer hclient parts hlookup none
  have hflag : decide (strategy = .stickyCid) = decide (lbType = "sticky-cid".toList) := decide_eq_decide.2 hsticky.symm
  unfold resolveLbKeyForRuntimeRequest resolveLbKeyForRuntimeInput resolveLbKey resolveLbKeyForInput
  simp only [Option.bind_some]
  rw [hflag]
  exact (congrArg (resolveWith · _ _) hconf).trans (resolveWith_clientAddr _ _ parts none)

/-- a request with the header `x-user-id: bob`, found up to ASCII case -/
def userRequest : RouteResolutionRequest :=
  ⟨"GET".toList, "/api/items?tenant=acme".toList, some "api.example.com".toList, some "cid-456".toList,
    some fun name => if name.map Char.toLower = "x-user-id".toList then some "bob".toList else none⟩

theorem user_header_keys_agree :
    resolveLbKeyForRuntimeRequest (fun addr : List Char => addr) .consistentHash (some (.header "x-user-id".toList))
        userRequest =
      resolveLbKey (fun addr : List Char => addr) "consistent-hash".toList (some "header:X-User-Id".toList)
        userRequest.method userRequest.path userRequest.authority userRequest.cidKey (some "203.0.113.9".toList)
        userRequest.headerLookup :=
  resolvers_agree (fun addr : List Char => addr) rfl rfl (by decide) (by decide) (by decide) userRequest
    (fun lookup hl a b hab => by
      cases hl
      simp only [hab])
    "203.0.113.9".toList

/-- the raw dispatch of a `peer_ip` or `client_ip` spec reads the client address -/
theorem resolveLbKeyFromParts_peer {raw : List Char} {k : RuntimeRequestKeySpec}
    (hk : RuntimeRequestKeySpec.normalize raw = .ok k) (hpeer : k = .peerIp ∨ k = .clientIp)
    (request : LbKeyRequestParts Addr) (hlookup : ∀ lookup ∈ request.headerLookup, CaseInsensitive lookup) :
    resolveLbKeyFromParts ipString raw request = request.clientAddr.map ipString := by
  rw [resolveLbKeyFromParts_of_normalize ipString hk request hlookup]
  rcases hpeer with rfl | rfl <;> rfl

/-- production's resolver and `resolve_lb_key` part on `peer_ip` and `client_ip` specs, which production answers
with a fallback while `resolve_lb_key` answers with the client's IP, and on a `header:` spec with a space after the
`:`, for which production looks up the name with the space and finds nothing -/
theorem lb_key_resolvers_diverge :
    (∀ {raw : List Char} {k : RuntimeRequestKeySpec}, RuntimeRequestKeySpec.normalize raw = .ok k →
      k = .peerIp ∨ k = .clientIp →
      ∀ (strategy : RuntimeLoadBalancingStrategy) (lbType : List Char) (request : RouteResolutionRequest),
      (∀ lookup ∈ request.headerLookup, CaseInsensitive lookup) → ∀ clientAddr : Addr, ipString clientAddr ≠ [] →
      (resolveLbKeyForRuntimeRequest ipString strategy (some k) request).source ≠ .configuredSpec ∧
      resolveLbKey ipString lbType (some raw) request.method request.path request.authority request.cidKey
        (some clientAddr) request.headerLookup = ⟨ipString clientAddr, .configuredSpec⟩) ∧
    (∀ name : List Char, name ≠ [] → (∀ c ∈ name, isWhitespace c = false) →
      RuntimeRequestKeySpec.normalize ("header: ".toList ++ name) = .ok (.header (' ' :: name.map Char.toLower)) ∧
      ∀ (strategy : RuntimeLoadBalancingStrategy) (lbType : List Char) (request : RouteResolutionRequest)
        (lookup : List Char → Option (List Char)) (value : List Char),
      request.headerLookup = some lookup → CaseInsensitive lookup → (∀ x, lookup (' ' :: x) = none) →
      lookup name = some value → value ≠ [] → ∀ clientAddr : Option Addr,
      (resolveLbKeyForRuntimeRequest ipString strategy (some (.header (' ' :: name.map Char.toLower))) request).source ≠
        .configuredSpec ∧
      resolveLbKey ipString lbType (some ("header: ".toList ++ name)) request.method request.path request.authority
        request.cidKey clientAddr request.headerLookup = ⟨value, .configuredSpec⟩) := by
  refine ⟨?_, ?_⟩
  · intro raw k hk hpeer strategy lbType request hlookup clientAddr haddr
    -- production's parts carry no address, so its dispatch finds no key
    have hnone : resolveLbKeyFromRuntimeParts ipString k
        ⟨request.method, request.path, request.authority, request.cidKey, none, request.headerLookup⟩ = none := by
      rcases hpeer with rfl | rfl <;> rfl
    constructor
    · unfold resolveLbKeyForRuntimeRequest resolveLbKeyForRuntimeInput
      rw [Option.bind_some, hnone]
      exact resolveWith_none_source _ _
    · unfold resolveLbKey resolveLbKeyForInput
      rw [Option.bind_some, resolveLbKeyFromParts_peer ipString hk hpeer _ hlookup, Option.map_some]
      exact resolveWith_of_ne_nil haddr _ _
  · intro name hne hname
    have hk := normalize_header_space hne hname
    refine ⟨hk, ?_⟩
    intro strategy lbType request lookup value hl hcase hspace hvalue hvalue' clientAddr
    constructor
    · -- production looks up the name with its leading space
      unfold resolveLbKeyForRuntimeRequest resolveLbKeyForRuntimeInput
      simp only [Option.bind_some, resolveLbKeyFromRuntimeParts, hl, hspace]
      exact resolveWith_none_source _ _
    · -- the raw resolver trims the space off and finds the header
      have hlookup : ∀ l ∈ (some lookup : Option _), CaseInsensitive l := by
        intro l hl'
        cases hl'
        exact hcase
      have hfound : lookup (trimChars (' ' :: name.map Char.toLower)) = some value := by
        rw [trimChars_cons_of_isWhitespace (by decide), trimChars_map_toLower,
          trimChars_of_forall_not_isWhitespace hname, ← hvalue]
        exact hcase _ _ (map_toLower_toLower name)
      unfold resolveLbKey resolveLbKeyForInput
      rw [Option.bind_some, hl, resolveLbKeyFromParts_of_normalize ipString hk _ hlookup]
      simp only [RuntimeRequestKeySpec.mapName, resolveLbKeyFromRuntimeParts, Option.bind_some, hfound]
      exact resolveWith_of_ne_nil hvalue' _ _

example : resolveLbKeyForRuntimeRequest (fun addr : List Char => addr) .consistentHash (some .peerIp) userRequest =
    ⟨"api.example.com".toList, .defaultFallback⟩ := by decide

end Resolve

end Spooky.Edge
