/-
Header names, values and methods of the `http` crate, the calls on it that the bridge makes, and the bridge's
hop-by-hop filtering and websocket detection (`crates/bridge/src/headers.rs`, `crates/bridge/src/websocket.rs`).

An inbound HTTP/3 header (`quiche::h3::Header`) is a pair of byte strings. `HeaderName` and `HeaderValue` carry the
validity the crate guarantees as a field, so every header a request builder holds is well formed by construction.
The crate is not part of the repository: the calls on it (`HeaderName::from_bytes`, `HeaderValue::from_bytes`,
`Method::from_bytes`, `Uri::try_from`, `Builder::header`) are the parameters `HttpOps`, and the results assume of
them only the documented behaviour `HttpLaws`: a name is accepted when it is a token of at most 64 KiB and stored
lower-cased, a value when no byte is a control character other than tab, a method when it is a token, and `header`
appends to the header map. `referenceHttp` meets the laws, and every instance that does is it, up to the URI parser
(`HttpLaws.eq_referenceHttp`).

`connection_header_tokens` returns a `HashSet`; it is a list here, of which `should_strip_request_header` reads
membership only. Its strings are compared with header names as `str`, that is as UTF-8 bytes, so a token is kept as
its bytes.
-/
import Spooky.Lib.Text
import Spooky.Lib.KeyedList

namespace Spooky.Bridge

open Text

/-- `quiche::h3::Header` -/
structure H3Header where
  name : List UInt8
  value : List UInt8
deriving DecidableEq, Repr

/-! ## Names, values and methods -/

/-- RFC 9110 `tchar`, the bytes a token is made of -/
def isTchar (b : UInt8) : Bool :=
  isAsciiDigit b || isAsciiUppercase b || isAsciiLowercase b ||
    [33, 35, 36, 37, 38, 39, 42, 43, 45, 46, 94, 95, 96, 124, 126].contains b

/-- a byte of a name as `HeaderName` stores it: a token byte, not upper case -/
def isNameByte (b : UInt8) : Bool := isTchar b && !isAsciiUppercase b

@[ext]
structure HeaderName where
  bytes : List UInt8
  valid : bytes ≠ [] ∧ bytes.all isNameByte = true
deriving DecidableEq

/-- `HeaderValue::from_bytes` accepts a byte from space up, but `DEL`, and tab -/
def isValueByte (b : UInt8) : Bool := (32 ≤ b && b != 127) || b == 9

@[ext]
structure HeaderValue where
  bytes : List UInt8
  valid : bytes.all isValueByte = true
deriving DecidableEq

theorem isValueByte_of_isAsciiDigit {b : UInt8} (h : isAsciiDigit b = true) : isValueByte b = true := by
  simp only [isAsciiDigit, Bool.and_eq_true, decide_eq_true_eq, UInt8.le_iff_toNat_le, UInt8.reduceToNat] at h
  have h32 : (32 : UInt8) ≤ b := by
    simp only [UInt8.le_iff_toNat_le, UInt8.reduceToNat]
    omega
  have hne : b ≠ 127 := fun h' => by subst h'; simp at h
  simp [isValueByte, h32, hne]

/-- `HeaderValue::from` an integer: its decimal digits -/
def HeaderValue.ofNat (n : ℕ) : HeaderValue :=
  ⟨decimalBytes n, List.all_eq_true.2 fun _ hb => isValueByte_of_isAsciiDigit (isAsciiDigit_of_mem_decimalBytes hb)⟩

/-- `HeaderValue::to_str`: the value as text when it is visible ASCII or tab -/
def HeaderValue.toStr (v : HeaderValue) : Option (List Char) :=
  if v.bytes.all fun b => (32 ≤ b && b < 127) || b == 9 then some (v.bytes.map fun b => Char.ofNat b.toNat) else none

/-! ## The request head a builder assembles -/

inductive Version where
  | http11
  | http2
deriving DecidableEq, Repr

structure Parts where
  method : List UInt8
  uri : String := "/"
  version : Version := .http11
  headers : List (HeaderName × HeaderValue) := []
  /-- the `hyper::ext::Protocol` extension -/
  protocol : Option String := none

/-! ## The calls on the `http` crate -/

/-- the calls on the `http` crate that the bridge makes -/
structure HttpOps where
  /-- `HeaderName::from_bytes` -/
  headerNameFromBytes : List UInt8 → Option HeaderName
  /-- `HeaderValue::from_bytes`, and the conversion of a string value that `Builder::header` makes -/
  headerValueFromBytes : List UInt8 → Option HeaderValue
  /-- `Method::from_bytes`; a method is kept as its bytes, which `as_str` gives back -/
  methodFromBytes : List UInt8 → Option (List UInt8)
  /-- whether `Uri::try_from` accepts a string -/
  uriTryFrom : String → Bool
  /-- `Builder::header` with a name and a value already converted -/
  header : Parts → HeaderName → HeaderValue → Parts

/-- the 64 KiB cap of `HeaderName::from_bytes` -/
def maxHeaderNameLen : ℕ := 2 ^ 16

/-- what the `http` crate documents of the calls the bridge makes -/
structure HttpLaws (H : HttpOps) : Prop where
  /-- a name is accepted when it is a token of at most 64 KiB, and stored lower-cased -/
  headerName_fromBytes : ∀ src n, H.headerNameFromBytes src = some n ↔
    n.bytes = src.map toAsciiLowercase ∧ src.all isTchar = true ∧ src.length ≤ maxHeaderNameLen
  /-- a value is accepted when it is a valid value, and kept as it is -/
  headerValue_fromBytes : ∀ src v, H.headerValueFromBytes src = some v ↔ v.bytes = src
  /-- a method is accepted when it is a non-empty token, and kept as it is -/
  method_fromBytes : ∀ src m, H.methodFromBytes src = some m ↔ m = src ∧ src ≠ [] ∧ src.all isTchar = true
  /-- `header` appends to the header map (`HeaderMap::append`) and replaces nothing -/
  header_append : ∀ p n v, H.header p n v = { p with headers := p.headers ++ [(n, v)] }

theorem isNameByte_toAsciiLowercase {b : UInt8} (h : isTchar b = true) : isNameByte (toAsciiLowercase b) = true := by
  unfold toAsciiLowercase
  split
  · -- an upper-case letter becomes a lower-case one
    rename_i hup
    simp only [isAsciiUppercase, Bool.and_eq_true, decide_eq_true_eq, UInt8.le_iff_toNat_le,
      UInt8.reduceToNat] at hup
    have hn : (b + 32).toNat = b.toNat + 32 := by
      simp only [UInt8.toNat_add, UInt8.reduceToNat]
      omega
    simp only [isNameByte, isTchar, isAsciiLowercase, isAsciiUppercase, UInt8.le_iff_toNat_le, hn]
    simp at hup ⊢
    omega
  · rename_i hup
    simp [isNameByte, h, hup]

/-- the calls as the crate makes them, with a URI parser that accepts every URI -/
def referenceHttp : HttpOps where
  headerNameFromBytes src :=
    if h : src ≠ [] ∧ src.all isTchar = true ∧ src.length ≤ maxHeaderNameLen then
      some ⟨src.map toAsciiLowercase, by
        refine ⟨by simpa using h.1, ?_⟩
        simp only [List.all_map, List.all_eq_true, Function.comp_apply]
        exact fun b hb => isNameByte_toAsciiLowercase (List.all_eq_true.1 h.2.1 b hb)⟩
    else none
  headerValueFromBytes src := if h : src.all isValueByte = true then some ⟨src, h⟩ else none
  methodFromBytes src := if src ≠ [] ∧ src.all isTchar = true then some src else none
  uriTryFrom _ := true
  header p n v := { p with headers := p.headers ++ [(n, v)] }

theorem referenceHttp_laws : HttpLaws referenceHttp where
  headerName_fromBytes src n := by
    simp only [referenceHttp]
    split
    · rename_i h
      rw [Option.some.injEq, HeaderName.ext_iff, eq_comm]
      exact ⟨fun hb => ⟨hb, h.2⟩, fun hb => hb.1⟩
    · rename_i h
      refine ⟨fun h' => absurd h' (Option.some_ne_none _).symm, fun ⟨hb, htchar, hlen⟩ => absurd ⟨fun hnil => ?_, htchar, hlen⟩ h⟩
      -- a name is never empty
      exact n.valid.1 (by simp [hb, hnil])
  headerValue_fromBytes src v := by
    simp only [referenceHttp]
    split
    · rw [Option.some.injEq, HeaderValue.ext_iff, eq_comm]
    · rename_i h
      refine ⟨fun h' => absurd h' (Option.some_ne_none _).symm, fun hb => absurd (hb ▸ v.valid) h⟩
  method_fromBytes src m := by
    simp only [referenceHttp]
    split
    · rename_i h
      rw [Option.some.injEq, eq_comm]
      exact ⟨fun hm => ⟨hm, h⟩, fun hm => hm.1⟩
    · rename_i h
      exact ⟨fun h' => absurd h' (Option.some_ne_none _).symm, fun hm => absurd hm.2 h⟩
  header_append _ _ _ := rfl

/-- the laws determine every call but the URI parser -/
theorem HttpLaws.eq_referenceHttp {H : HttpOps} (hH : HttpLaws H) : { H with uriTryFrom := fun _ => true } = referenceHttp := by
  have hname : H.headerNameFromBytes = referenceHttp.headerNameFromBytes := by
    funext src
    exact Option.ext fun n => by
      rw [hH.headerName_fromBytes, referenceHttp_laws.headerName_fromBytes]
  have hvalue : H.headerValueFromBytes = referenceHttp.headerValueFromBytes := by
    funext src
    exact Option.ext fun v => by
      rw [hH.headerValue_fromBytes, referenceHttp_laws.headerValue_fromBytes]
  have hmethod : H.methodFromBytes = referenceHttp.methodFromBytes := by
    funext src
    exact Option.ext fun m => by
      rw [hH.method_fromBytes, referenceHttp_laws.method_fromBytes]
  have hheader : H.header = referenceHttp.header := by
    funext p n v
    rw [hH.header_append, referenceHttp_laws.header_append]
  cases H
  simp only at hname hvalue hmethod hheader
  rw [hname, hvalue, hmethod, hheader]
  rfl

/-! ## The names the code refers to (`http::header` constants and `HeaderName::from_static`) -/

namespace HeaderName

def connection : HeaderName := ⟨utf8 "connection", by decide⟩
def upgrade : HeaderName := ⟨utf8 "upgrade", by decide⟩
def contentLength : HeaderName := ⟨utf8 "content-length", by decide⟩
def proxyAuthenticate : HeaderName := ⟨utf8 "proxy-authenticate", by decide⟩
def proxyAuthorization : HeaderName := ⟨utf8 "proxy-authorization", by decide⟩
def te : HeaderName := ⟨utf8 "te", by decide⟩
def trailer : HeaderName := ⟨utf8 "trailer", by decide⟩
def transferEncoding : HeaderName := ⟨utf8 "transfer-encoding", by decide⟩
def host : HeaderName := ⟨utf8 "host", by decide⟩
def xRequestId : HeaderName := ⟨utf8 "x-request-id", by decide⟩
def traceparent : HeaderName := ⟨utf8 "traceparent", by decide⟩
def forwarded : HeaderName := ⟨utf8 "forwarded", by decide⟩
def xForwardedFor : HeaderName := ⟨utf8 "x-forwarded-for", by decide⟩
def xForwardedProto : HeaderName := ⟨utf8 "x-forwarded-proto", by decide⟩
def xForwardedHost : HeaderName := ⟨utf8 "x-forwarded-host", by decide⟩

end HeaderName

/-! ## Hop-by-hop filtering (`headers.rs`) -/

/-- the tokens of one `Connection` value: each comma-separated part trimmed and lower-cased, empty ones dropped -/
def connectionValueTokens (value : List Char) : List (List UInt8) :=
  ((value.splitOn ',').map fun token => encode ((trimChars token).map Char.toLower)).filter (· ≠ [])

/-- `connection_header_tokens`: the tokens of every `Connection` header whose value is UTF-8 -/
def connectionHeaderTokens (headers : List H3Header) : List (List UInt8) :=
  headers.flatMap fun header =>
    if !eqIgnoreAsciiCase header.name (utf8 "connection") then []
    else
      match decodeUtf8 header.value with
      | some value => connectionValueTokens value
      | none => []

/-- `should_strip_request_header` -/
def shouldStripRequestHeader (name : HeaderName) (connectionTokens : List (List UInt8)) (preserveUpgrade : Bool) :
    Bool :=
  if preserveUpgrade && (name == .connection || name == .upgrade) then false
  else if connectionTokens.contains name.bytes then true
  else if name == .contentLength then true
  else if name == .connection || name == .proxyAuthenticate || name == .proxyAuthorization || name == .te ||
      name == .trailer || name == .transferEncoding || name == .upgrade ||
      eqIgnoreAsciiCase name.bytes (utf8 "keep-alive") || eqIgnoreAsciiCase name.bytes (utf8 "proxy-connection") ||
      eqIgnoreAsciiCase name.bytes (utf8 "forwarded") || eqIgnoreAsciiCase name.bytes (utf8 "x-forwarded-for") ||
      eqIgnoreAsciiCase name.bytes (utf8 "x-forwarded-proto") ||
      eqIgnoreAsciiCase name.bytes (utf8 "x-forwarded-host") then true
  else false

/-- keeping `Connection` and `Upgrade` for a websocket upgrade changes the answer for those two names only -/
theorem shouldStripRequestHeader_preserve {name : HeaderName} {connectionTokens : List (List UInt8)}
    (h : shouldStripRequestHeader name connectionTokens false = false) :
    shouldStripRequestHeader name connectionTokens true = false := by
  unfold shouldStripRequestHeader at h ⊢
  simp only [Bool.false_and, Bool.false_eq_true, if_false] at h
  split_ifs at h ⊢ <;> simp_all

/-! ## Websocket detection (`websocket.rs`) -/

inductive H3WebsocketRequestKind where
  | none
  | legacyUpgrade
  | extendedConnect
deriving DecidableEq, Repr

/-- the header is named `name` and its value is `expected` up to ASCII case -/
def headerValueIs (name expected : String) (header : H3Header) : Bool :=
  eqIgnoreAsciiCase header.name (utf8 name) &&
    match decodeUtf8 header.value with
    | some value => charsEqIgnoreAsciiCase value expected.toList
    | none => false

/-- `h3_websocket_request_kind` -/
def h3WebsocketRequestKind (method : List UInt8) (headers : List H3Header) : H3WebsocketRequestKind :=
  let upgradeIsWebsocket := headers.any (headerValueIs "upgrade" "websocket")
  let connectionMentionsUpgrade := headers.any fun header =>
    eqIgnoreAsciiCase header.name (utf8 "connection") &&
      match decodeUtf8 header.value with
      | some value => (value.splitOn ',').any fun part => charsEqIgnoreAsciiCase (trimChars part) "upgrade".toList
      | none => false
  let protocolIsWebsocket := headers.any (headerValueIs ":protocol" "websocket")
  if eqIgnoreAsciiCase method (utf8 "CONNECT") && protocolIsWebsocket then .extendedConnect
  else if eqIgnoreAsciiCase method (utf8 "GET") && upgradeIsWebsocket && connectionMentionsUpgrade then .legacyUpgrade
  else .none

end Spooky.Bridge
