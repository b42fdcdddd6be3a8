/-
The upstream request the bridge builds from an HTTP/3 request (`crates/bridge/src/request.rs`, `forwarded.rs`,
`host.rs`, `h3_to_h1.rs`, `h3_to_h2.rs`).

`apply_request_header_policies` folds over the inbound headers: it skips pseudo-headers, collects the forwarded
family, drops what `should_strip_request_header` strips, keeps the last `Host` aside and passes the rest through.
Each builder appends the passthrough headers to a fresh `http::request::Builder`, and
`apply_request_header_assembly` appends them again before the headers it adds itself. `Builder::header` appends to
the header map, so no header replaces an earlier one.

A builder is `Option Parts`: none once a conversion inside it has failed, which `body` then reports as
`BridgeError::Build`. The request body, `body_mode` (which neither builder reads) and the errors' `Display` texts
are left out. Every call on the `http` crate goes through the parameter `H : HttpOps`; the client's `IpAddr` is its
`Display` text and whether it is IPv6.
-/
import Spooky.Bridge.Headers
import Spooky.Config.BackendEndpoint

namespace Spooky.Bridge

open Text Spooky.Config

variable (H : HttpOps)

/-! ## Configuration (`spooky_config::config`) -/

inductive UpstreamHostPolicyMode where
  | passThrough
  | rewrite
  | upstream
deriving DecidableEq, Repr

structure UpstreamHostPolicy where
  mode : UpstreamHostPolicyMode := .passThrough
  host : Option String := none

inductive ForwardedHeaderPolicyMode where
  | overwrite
  | append
  | preserve
deriving DecidableEq, Repr

structure ForwardedHeaderPolicy where
  mode : ForwardedHeaderPolicyMode := .overwrite

/-- `spooky_errors::BridgeError`, without the `http::Error` that `Build` wraps -/
inductive BridgeError where
  | invalidMethod
  | invalidUri
  | invalidHeader
  | build
deriving DecidableEq, Repr

/-- `HeaderValue::from_bytes(..).map_err(|_| BridgeError::InvalidHeader)` -/
def headerValue (src : List UInt8) : Except BridgeError HeaderValue :=
  match H.headerValueFromBytes src with
  | some value => .ok value
  | none => .error .invalidHeader

/-! ## Forwarded headers (`forwarded.rs`) -/

/-- the client's `IpAddr`, through what the code reads of it -/
structure ClientIp where
  text : String
  isV6 : Bool

/-- the inbound values of the four forwarded headers, in arrival order -/
structure ForwardedHeaderChains where
  forwarded : List (List UInt8) := []
  xForwardedFor : List (List UInt8) := []
  xForwardedProto : List (List UInt8) := []
  xForwardedHost : List (List UInt8) := []

structure ForwardedHeaderValues where
  forwarded : Option HeaderValue
  xForwardedFor : Option HeaderValue
  xForwardedProto : Option HeaderValue
  xForwardedHost : Option HeaderValue

/-- `join_header_chain`: the values joined by `, `, none for no value -/
def joinHeaderChain (values : List (List UInt8)) : Except BridgeError (Option HeaderValue) :=
  if values.isEmpty then .ok none
  else (headerValue H ((utf8 ", ").intercalate values)).map some

/-- `merge_forwarded_chain` -/
def mergeForwardedChain (mode : ForwardedHeaderPolicyMode) (inbound : List (List UInt8))
    (current : Option (List UInt8)) : Except BridgeError (Option HeaderValue) :=
  match mode with
  | .preserve => joinHeaderChain H inbound
  | .append => joinHeaderChain H (inbound ++ current.toList)
  | .overwrite =>
    match current with
    | some current => (headerValue H current).map some
    | none => .ok none

/-- `forwarded_for_value`: an IPv6 address is bracketed and quoted -/
def forwardedForValue (ip : ClientIp) : List Char :=
  if ip.isV6 then "\"[".toList ++ ip.text.toList ++ "]\"".toList else ip.text.toList

/-- `escape_forwarded_host`: backslashes doubled, then quotes escaped (92 is the backslash, 34 the quote) -/
def escapeForwardedHost (host : List Char) : List Char :=
  replace (Char.ofNat 34) [Char.ofNat 92, Char.ofNat 34] (replace (Char.ofNat 92) [Char.ofNat 92, Char.ofNat 92] host)

/-- `build_forwarded_header_values` -/
def buildForwardedHeaderValues (policy : ForwardedHeaderPolicy) (inbound : ForwardedHeaderChains)
    (clientIp : ClientIp) (hostValue : List Char) : Except BridgeError ForwardedHeaderValues := do
  let forwardedCurrent := "for=".toList ++ forwardedForValue clientIp ++ ";proto=https;host=\"".toList ++
    escapeForwardedHost hostValue ++ "\"".toList
  let forwarded ← mergeForwardedChain H policy.mode inbound.forwarded (some (encode forwardedCurrent))
  let xForwardedFor ← mergeForwardedChain H policy.mode inbound.xForwardedFor (some (utf8 clientIp.text))
  let xForwardedProto ← mergeForwardedChain H policy.mode inbound.xForwardedProto (some (utf8 "https"))
  let xForwardedHost ← mergeForwardedChain H policy.mode inbound.xForwardedHost (some (encode hostValue))
  pure ⟨forwarded, xForwardedFor, xForwardedProto, xForwardedHost⟩

/-! ## The upstream `Host` (`host.rs`) -/

/-- `resolve_upstream_host_value` -/
def resolveUpstreamHostValue (endpoint : BackendEndpoint) (hostPolicy : UpstreamHostPolicy)
    (requestAuthority hostHeader : Option (List Char)) : Except BridgeError (List Char) :=
  match hostPolicy.mode with
  | .passThrough =>
    .ok (((requestAuthority.or hostHeader).filter fun value => !(trimChars value).isEmpty).getD endpoint.authority)
  | .rewrite =>
    match (hostPolicy.host.map String.toList).filter fun value => !(trimChars value).isEmpty with
    | some host => .ok host
    | none => .error .invalidHeader
  | .upstream => .ok endpoint.authority

/-! ## Header policies (`apply_request_header_policies`) -/

structure RequestTraceContext where
  requestId : UInt64
  traceparent : Option String

/-- `RequestForwardedContext`, through `client_addr.ip()` -/
structure RequestForwardedContext where
  clientIp : ClientIp

structure RequestBuildPolicies where
  hostPolicy : UpstreamHostPolicy
  forwardedHeaderPolicy : ForwardedHeaderPolicy

structure RequestBuildTarget where
  endpoint : BackendEndpoint
  policies : RequestBuildPolicies

structure RequestBuildInput where
  method : String
  path : String
  authority : Option String
  headers : List H3Header
  contentLength : Option ℕ
  trace : RequestTraceContext
  forwarded : RequestForwardedContext

structure RequestHeaderPolicyInput where
  target : RequestBuildTarget
  authority : Option String
  headers : List H3Header
  preserveUpgrade : Bool
  forwarded : RequestForwardedContext

structure ResolvedRequestHeaderPolicy where
  passthroughHeaders : List (HeaderName × HeaderValue)
  hostValue : List Char
  forwardedValues : ForwardedHeaderValues

/-- the variables the loop of `apply_request_header_policies` updates -/
structure PolicyAcc where
  passthroughHeaders : List (HeaderName × HeaderValue) := []
  hostFromHeaders : Option (List Char) := none
  chains : ForwardedHeaderChains := {}

/-- one iteration of the loop of `apply_request_header_policies` -/
def policyStep (connectionTokens : List (List UInt8)) (preserveUpgrade : Bool) (acc : PolicyAcc)
    (header : H3Header) : Except BridgeError PolicyAcc :=
  let name := header.name
  -- `name.starts_with(b":")`
  if name.head? = some 58 then .ok acc
  else if eqIgnoreAsciiCase name (utf8 "forwarded") then
    .ok { acc with chains := { acc.chains with forwarded := acc.chains.forwarded ++ [header.value] } }
  else if eqIgnoreAsciiCase name (utf8 "x-forwarded-for") then
    .ok { acc with chains := { acc.chains with xForwardedFor := acc.chains.xForwardedFor ++ [header.value] } }
  else if eqIgnoreAsciiCase name (utf8 "x-forwarded-proto") then
    .ok { acc with chains := { acc.chains with xForwardedProto := acc.chains.xForwardedProto ++ [header.value] } }
  else if eqIgnoreAsciiCase name (utf8 "x-forwarded-host") then
    .ok { acc with chains := { acc.chains with xForwardedHost := acc.chains.xForwardedHost ++ [header.value] } }
  else
    match H.headerNameFromBytes name with
    | none => .error .invalidHeader
    | some headerName =>
      if shouldStripRequestHeader headerName connectionTokens preserveUpgrade then .ok acc
      else
        match H.headerValueFromBytes header.value with
        | none => .error .invalidHeader
        | some headerValue =>
          if headerName = .host then .ok { acc with hostFromHeaders := headerValue.toStr }
          else .ok { acc with passthroughHeaders := acc.passthroughHeaders ++ [(headerName, headerValue)] }

/-- `apply_request_header_policies` -/
def applyRequestHeaderPolicies (input : RequestHeaderPolicyInput) :
    Except BridgeError ResolvedRequestHeaderPolicy := do
  let connectionTokens := connectionHeaderTokens input.headers
  let acc ← input.headers.foldlM (policyStep H connectionTokens input.preserveUpgrade) {}
  let hostValue ← resolveUpstreamHostValue input.target.endpoint input.target.policies.hostPolicy
    (input.authority.map String.toList) acc.hostFromHeaders
  let forwardedValues ← buildForwardedHeaderValues H input.target.policies.forwardedHeaderPolicy acc.chains
    input.forwarded.clientIp hostValue
  pure ⟨acc.passthroughHeaders, hostValue, forwardedValues⟩

/-! ## The request builder (`http::request::Builder`) -/

namespace Builder

/-- `Request::builder().method(method)` -/
def method (method : List UInt8) : Option Parts := some { method }

/-- `header` with a name and a value already checked -/
def header (builder : Option Parts) (name : HeaderName) (value : HeaderValue) : Option Parts :=
  builder.map fun parts => H.header parts name value

/-- `header` with a value still to convert: a failed conversion leaves the builder in error -/
def headerBytes (builder : Option Parts) (name : HeaderName) (value : List UInt8) : Option Parts :=
  builder.bind fun parts => (H.headerValueFromBytes value).map (H.header parts name)

/-- `if let Some(value) = value { builder = builder.header(name, value) }` -/
def headerIfSome (builder : Option Parts) (name : HeaderName) (value : Option HeaderValue) : Option Parts :=
  match value with
  | some value => header H builder name value
  | none => builder

/-- the loop `for (name, value) in headers { builder = builder.header(name, value) }` -/
def appendHeaders (builder : Option Parts) (headers : List (HeaderName × HeaderValue)) : Option Parts :=
  headers.foldl (fun builder h => header H builder h.1 h.2) builder

def uri (builder : Option Parts) (uri : String) : Option Parts := builder.map fun parts => { parts with uri }

def version (builder : Option Parts) (version : Version) : Option Parts :=
  builder.map fun parts => { parts with version }

def extension (builder : Option Parts) (protocol : String) : Option Parts :=
  builder.map fun parts => { parts with protocol := some protocol }

/-- `headers_ref().is_some_and(|h| h.contains_key(name))` -/
def containsKey (builder : Option Parts) (name : HeaderName) : Bool :=
  builder.any fun parts => KeyedList.containsKey name parts.headers

/-- `body`: the request, or `BridgeError::Build` for a builder in error -/
def body (builder : Option Parts) : Except BridgeError Parts :=
  match builder with
  | some parts => .ok parts
  | none => .error .build

end Builder

/-- `Uri::try_from(uri).map_err(|_| BridgeError::InvalidUri)` -/
def uriTry (uri : String) : Except BridgeError String :=
  if H.uriTryFrom uri then .ok uri else .error .invalidUri

/-! ## Header assembly (`apply_request_header_assembly`) -/

structure RequestHeaderAssembly where
  resolvedHeaders : ResolvedRequestHeaderPolicy
  trace : RequestTraceContext
  contentLength : Option ℕ
  includeContentLength : Bool
  includeHostHeader : Bool
  addTeTrailers : Bool

/-- `apply_request_header_assembly` -/
def applyRequestHeaderAssembly (builder : Option Parts) (assembly : RequestHeaderAssembly) :
    Except BridgeError (Option Parts) := do
  let resolved := assembly.resolvedHeaders
  let builder := Builder.appendHeaders H builder resolved.passthroughHeaders
  let builder :=
    if assembly.includeHostHeader then Builder.headerBytes H builder .host (encode resolved.hostValue) else builder
  let builder :=
    match assembly.contentLength with
    | some len =>
      if assembly.includeContentLength && decide (len > 0) then
        Builder.header H builder .contentLength (HeaderValue.ofNat len)
      else builder
    | none => builder
  let builder ←
    (if !Builder.containsKey builder .xRequestId then
      (headerValue H (decimalBytes assembly.trace.requestId.toNat)).map (Builder.header H builder .xRequestId)
    else pure builder)
  let builder ←
    (match !Builder.containsKey builder .traceparent, assembly.trace.traceparent with
    | true, some traceparent => (headerValue H (utf8 traceparent)).map (Builder.header H builder .traceparent)
    | _, _ => pure builder)
  let builder := Builder.headerIfSome H builder .forwarded resolved.forwardedValues.forwarded
  let builder := Builder.headerIfSome H builder .xForwardedFor resolved.forwardedValues.xForwardedFor
  let builder := Builder.headerIfSome H builder .xForwardedProto resolved.forwardedValues.xForwardedProto
  let builder := Builder.headerIfSome H builder .xForwardedHost resolved.forwardedValues.xForwardedHost
  let builder := if assembly.addTeTrailers then Builder.headerBytes H builder .te (utf8 "trailers") else builder
  pure builder

/-! ## The two builders (`h3_to_h1.rs`, `h3_to_h2.rs`) -/

/-- `Method::from_bytes(method.as_bytes()).map_err(|_| BridgeError::InvalidMethod)` -/
def parseMethod (method : String) : Except BridgeError (List UInt8) :=
  match H.methodFromBytes (utf8 method) with
  | some method => .ok method
  | none => .error .invalidMethod

/-- `build_h1_request` -/
def buildH1Request (target : RequestBuildTarget) (input : RequestBuildInput) : Except BridgeError Parts := do
  let method ← parseMethod H input.method
  let websocketKind := h3WebsocketRequestKind method input.headers
  let preserveUpgrade := websocketKind == .legacyUpgrade
  let builder := Builder.method method
  let resolvedHeaders ← applyRequestHeaderPolicies H
    ⟨target, input.authority, input.headers, preserveUpgrade, input.forwarded⟩
  let builder := Builder.appendHeaders H builder resolvedHeaders.passthroughHeaders
  let requestPath := if input.path.isEmpty then "/" else input.path
  let uri ← uriTry H (target.endpoint.uriForPath requestPath)
  let builder := Builder.uri builder uri
  let builder ← applyRequestHeaderAssembly H builder
    ⟨resolvedHeaders, input.trace, input.contentLength, true, true, !preserveUpgrade⟩
  Builder.body builder

/-- `build_h2_request_for_target` -/
def buildH2RequestForTarget (target : RequestBuildTarget) (input : RequestBuildInput) :
    Except BridgeError Parts := do
  let method ← parseMethod H input.method
  let websocketKind := h3WebsocketRequestKind method input.headers
  -- extended CONNECT is the H2 websocket path (RFC 8441)
  let websocketExtendedConnect := websocketKind == .extendedConnect || websocketKind == .legacyUpgrade
  let upstreamMethod := if websocketExtendedConnect then utf8 "CONNECT" else method
  let isConnect := upstreamMethod == utf8 "CONNECT"
  let builder := Builder.method upstreamMethod
  let resolvedHeaders ← applyRequestHeaderPolicies H ⟨target, input.authority, input.headers, false, input.forwarded⟩
  let builder := Builder.appendHeaders H builder resolvedHeaders.passthroughHeaders
  let hostValue := resolvedHeaders.hostValue
  let uri ←
    (if websocketExtendedConnect then
      let requestPath := if input.path.isEmpty then "/" else input.path
      uriTry H (target.endpoint.uriForPath requestPath)
    else if isConnect then uriTry H (String.ofList hostValue)
    else
      let requestPath := if input.path.isEmpty then "/" else input.path
      uriTry H (target.endpoint.uriForPath requestPath))
  let builder := Builder.uri builder uri
  let builder :=
    if websocketExtendedConnect then Builder.extension (Builder.version builder .http2) "websocket" else builder
  let builder ← applyRequestHeaderAssembly H builder
    ⟨resolvedHeaders, input.trace, input.contentLength, !websocketExtendedConnect, !websocketExtendedConnect, false⟩
  Builder.body builder

end Spooky.Bridge
