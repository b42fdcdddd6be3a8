/-
Which inbound headers reach the upstream, for every request the bridge builds.

`policyStep_ok_cases` says once what one inbound header does to the passthrough list: it adds the header when its
name passes (`PassesThrough`: not stripped, not `Host`) and nothing otherwise. Over the whole loop the passthrough
list therefore holds, for every name that passes, exactly its inbound values in arrival order
(`applyRequestHeaderPolicies_passthrough`). The assembly appends the passthrough list to the builder it is given,
then `Host` when asked to, then only headers of the later names (`applyRequestHeaderAssembly_after_host`). Both
builders hand it a builder that already holds the passthrough list, so every end-to-end header arrives twice
(`buildH1Request_headers`, `buildH2RequestForTarget_headers`), while `Host` arrives once, with the resolved value
(`buildH1Request_host`; at most once over HTTP/2, where an extended CONNECT sends none, `buildH2RequestForTarget_host`). These results hold for every
`http` crate that meets `HttpLaws`; the one that makes a name lower case and `Builder::header` append is what they
rest on.
-/
import Spooky.Bridge.Request
import Spooky.Lib.Fallible

namespace Spooky.Bridge

open Text KeyedList

variable {H : HttpOps}

/-! ## Names -/

/-- a name as `HeaderName` stores it is its own lower case -/
theorem HeaderName.map_toAsciiLowercase (n : HeaderName) : n.bytes.map toAsciiLowercase = n.bytes := by
  calc n.bytes.map toAsciiLowercase = n.bytes.map id := List.map_congr_left fun b hb => by
        have hname : isNameByte b = true := List.all_eq_true.1 n.valid.2 b hb
        simp only [isNameByte, Bool.and_eq_true, Bool.not_eq_true'] at hname
        simp [toAsciiLowercase, hname.2]
    _ = n.bytes := List.map_id _

/-- the inbound name of a parsed header matches a name up to ASCII case exactly when it parses to that name -/
theorem eqIgnoreAsciiCase_iff_of_fromBytes (hH : HttpLaws H) {src : List UInt8} {n : HeaderName}
    (h : H.headerNameFromBytes src = some n) (c : HeaderName) : eqIgnoreAsciiCase src c.bytes = true ↔ n = c := by
  obtain ⟨hbytes, -, -⟩ := (hH.headerName_fromBytes src n).1 h
  rw [eqIgnoreAsciiCase, beq_iff_eq, ← hbytes, c.map_toAsciiLowercase, HeaderName.ext_iff]

/-- a pseudo-header's name, which starts with `:`, is no header name -/
theorem headerNameFromBytes_head (hH : HttpLaws H) {src : List UInt8} {n : HeaderName}
    (h : H.headerNameFromBytes src = some n) : src.head? ≠ some 58 := by
  intro hhead
  obtain ⟨-, htchar, -⟩ := (hH.headerName_fromBytes src n).1 h
  have hmem : 58 ∈ src := List.mem_of_mem_head? hhead
  have : isTchar 58 = true := List.all_eq_true.1 htchar 58 hmem
  exact absurd this (by decide)

/-- names `should_strip_request_header` strips whatever the `Connection` tokens: the ones the assembly may add
itself and the forwarded family -/
def strippedNames : List HeaderName :=
  [.contentLength, .te, .forwarded, .xForwardedFor, .xForwardedProto, .xForwardedHost]

theorem shouldStripRequestHeader_of_mem_strippedNames {n : HeaderName} (hn : n ∈ strippedNames)
    (connectionTokens : List (List UInt8)) (preserveUpgrade : Bool) :
    shouldStripRequestHeader n connectionTokens preserveUpgrade = true := by
  simp only [strippedNames, List.mem_cons, List.not_mem_nil, or_false] at hn
  -- each name is decided on its own; the token test may go either way
  rcases hn with rfl | rfl | rfl | rfl | rfl | rfl <;> simp +decide [shouldStripRequestHeader]

/-! ## The policy loop -/

/-- a name the policy loop passes through: not stripped and not `Host` -/
def PassesThrough (connectionTokens : List (List UInt8)) (preserveUpgrade : Bool) (name : HeaderName) : Prop :=
  shouldStripRequestHeader name connectionTokens preserveUpgrade = false ∧ name ≠ .host

/-- the inbound values of a name, in arrival order -/
def inboundValues (H : HttpOps) (name : HeaderName) (headers : List H3Header) : List (List UInt8) :=
  (headers.filter fun header => H.headerNameFromBytes header.name = some name).map H3Header.value

theorem inboundValues_append_singleton (name : HeaderName) (headers : List H3Header) (header : H3Header) :
    inboundValues H name (headers ++ [header]) =
      inboundValues H name headers ++ if H.headerNameFromBytes header.name = some name then [header.value] else [] := by
  unfold inboundValues
  split <;> simp_all

/-- a name of the forwarded family collected by the loop is stripped, so it never passes -/
theorem not_passesThrough_of_eqIgnoreAsciiCase (hH : HttpLaws H) {src : List UInt8} {n c : HeaderName}
    {connectionTokens : List (List UInt8)} {preserveUpgrade : Bool} (hc : c ∈ strippedNames)
    (he : eqIgnoreAsciiCase src c.bytes = true) (h : H.headerNameFromBytes src = some n) :
    ¬ PassesThrough connectionTokens preserveUpgrade n := by
  rw [(eqIgnoreAsciiCase_iff_of_fromBytes hH h c).1 he]
  rintro ⟨hstrip, -⟩
  rw [shouldStripRequestHeader_of_mem_strippedNames hc] at hstrip
  cases hstrip

/-- what one inbound header does to the passthrough list: nothing, and then its name does not pass, or it adds the
header under a name that passes -/
theorem policyStep_ok_cases (hH : HttpLaws H) {connectionTokens : List (List UInt8)} {preserveUpgrade : Bool}
    {acc acc' : PolicyAcc} {header : H3Header} (h : policyStep H connectionTokens preserveUpgrade acc header = .ok acc') :
    (acc'.passthroughHeaders = acc.passthroughHeaders ∧
      ∀ n, H.headerNameFromBytes header.name = some n → ¬ PassesThrough connectionTokens preserveUpgrade n) ∨
    ∃ n v, H.headerNameFromBytes header.name = some n ∧ H.headerValueFromBytes header.value = some v ∧
      PassesThrough connectionTokens preserveUpgrade n ∧
      acc'.passthroughHeaders = acc.passthroughHeaders ++ [(n, v)] := by
  unfold policyStep at h
  dsimp only at h
  -- the chain of `if`s one condition at a time: `split_ifs` over the whole chain costs seconds
  by_cases hcolon : header.name.head? = some 58
  · -- a pseudo-header
    rw [if_pos hcolon] at h
    cases h
    exact Or.inl ⟨rfl, fun n hn => absurd hcolon (headerNameFromBytes_head hH hn)⟩
  rw [if_neg hcolon] at h
  -- the four forwarded headers
  by_cases hfwd : eqIgnoreAsciiCase header.name (utf8 "forwarded") = true
  · rw [if_pos hfwd] at h
    cases h
    exact Or.inl ⟨rfl, fun n hn => not_passesThrough_of_eqIgnoreAsciiCase hH (c := .forwarded) (by decide) hfwd hn⟩
  rw [if_neg hfwd] at h
  by_cases hfor : eqIgnoreAsciiCase header.name (utf8 "x-forwarded-for") = true
  · rw [if_pos hfor] at h
    cases h
    exact Or.inl ⟨rfl, fun n hn => not_passesThrough_of_eqIgnoreAsciiCase hH (c := .xForwardedFor) (by decide) hfor hn⟩
  rw [if_neg hfor] at h
  by_cases hproto : eqIgnoreAsciiCase header.name (utf8 "x-forwarded-proto") = true
  · rw [if_pos hproto] at h
    cases h
    exact Or.inl ⟨rfl, fun n hn =>
      not_passesThrough_of_eqIgnoreAsciiCase hH (c := .xForwardedProto) (by decide) hproto hn⟩
  rw [if_neg hproto] at h
  by_cases hhost : eqIgnoreAsciiCase header.name (utf8 "x-forwarded-host") = true
  · rw [if_pos hhost] at h
    cases h
    exact Or.inl ⟨rfl, fun n hn =>
      not_passesThrough_of_eqIgnoreAsciiCase hH (c := .xForwardedHost) (by decide) hhost hn⟩
  rw [if_neg hhost] at h
  -- any other header is parsed, then stripped, kept as `Host` or passed through
  split at h
  · cases h
  · rename_i name hname
    split_ifs at h with hstrip hishost
    · cases h
      refine Or.inl ⟨rfl, fun n hn hpass => ?_⟩
      rw [hname, Option.some.injEq] at hn
      subst hn
      rw [hpass.1] at hstrip
      cases hstrip
    -- a `Host` header is set aside
    · split at h
      · cases h
      · cases h
        refine Or.inl ⟨rfl, fun n hn hpass => ?_⟩
        rw [hname, Option.some.injEq] at hn
        exact hpass.2 (hn ▸ hishost)
    · split at h
      · cases h
      · rename_i value hvalue
        cases h
        exact Or.inr ⟨name, value, hname, hvalue, ⟨by simpa using hstrip, hishost⟩, rfl⟩

/-- the policy loop keeps only names that pass, and every inbound value of such a name, in arrival order -/
theorem policyLoop_passthrough (hH : HttpLaws H) {connectionTokens : List (List UInt8)} {preserveUpgrade : Bool}
    {headers : List H3Header} {acc : PolicyAcc}
    (h : headers.foldlM (policyStep H connectionTokens preserveUpgrade) {} = .ok acc) :
    (∀ e ∈ acc.passthroughHeaders, PassesThrough connectionTokens preserveUpgrade e.1) ∧
      ∀ n, PassesThrough connectionTokens preserveUpgrade n →
        (getAll n acc.passthroughHeaders).map HeaderValue.bytes = inboundValues H n headers := by
  refine Fallible.foldlM_induction (P := fun acc ys =>
    (∀ e ∈ acc.passthroughHeaders, PassesThrough connectionTokens preserveUpgrade e.1) ∧
      ∀ n, PassesThrough connectionTokens preserveUpgrade n →
        (getAll n acc.passthroughHeaders).map HeaderValue.bytes = inboundValues H n ys) ?_ ?_ h
  · exact ⟨by simp, fun n _ => by simp [inboundValues]⟩
  · rintro acc ys header acc' ⟨hall, hvalues⟩ hstep
    rcases policyStep_ok_cases hH hstep with ⟨hsame, hnot⟩ | ⟨name, value, hname, hvalue, hpass, happ⟩
    · -- the header leaves the list as it was, and adds no value to a name that passes
      refine ⟨hsame ▸ hall, fun n hn => ?_⟩
      rw [hsame, hvalues n hn, inboundValues_append_singleton, if_neg (fun h => hnot n h hn), List.append_nil]
    · refine ⟨?_, fun n hn => ?_⟩
      · rw [happ]
        intro e he
        rcases List.mem_append.1 he with he | he
        · exact hall e he
        · rw [List.mem_singleton.1 he]
          exact hpass
      · rw [happ, getAll_append, List.map_append, hvalues n hn, inboundValues_append_singleton, hname]
        by_cases hn' : name = n
        · subst hn'
          simp [getAll, (hH.headerValue_fromBytes _ _).1 hvalue]
        · simp [getAll, hn']

/-- `apply_request_header_policies` passes through exactly the inbound values of the names that pass -/
theorem applyRequestHeaderPolicies_passthrough (hH : HttpLaws H) {input : RequestHeaderPolicyInput}
    {r : ResolvedRequestHeaderPolicy} (h : applyRequestHeaderPolicies H input = .ok r) :
    (∀ e ∈ r.passthroughHeaders,
      PassesThrough (connectionHeaderTokens input.headers) input.preserveUpgrade e.1) ∧
      ∀ n, PassesThrough (connectionHeaderTokens input.headers) input.preserveUpgrade n →
        (getAll n r.passthroughHeaders).map HeaderValue.bytes = inboundValues H n input.headers := by
  unfold applyRequestHeaderPolicies at h
  obtain ⟨acc, hloop, h⟩ := Fallible.bind_eq_ok h
  obtain ⟨hostValue, -, h⟩ := Fallible.bind_eq_ok h
  obtain ⟨forwardedValues, -, h⟩ := Fallible.bind_eq_ok h
  cases h
  exact policyLoop_passthrough hH hloop

/-- the policy loop sets every inbound `Host` header aside -/
theorem applyRequestHeaderPolicies_ne_host (hH : HttpLaws H) {input : RequestHeaderPolicyInput}
    {r : ResolvedRequestHeaderPolicy} (h : applyRequestHeaderPolicies H input = .ok r) :
    ∀ e ∈ r.passthroughHeaders, e.1 ≠ .host :=
  fun e he => ((applyRequestHeaderPolicies_passthrough hH h).1 e he).2

/-! ## The builder and the assembly -/

theorem Builder.header_eq (hH : HttpLaws H) (builder : Option Parts) (n : HeaderName) (v : HeaderValue) :
    Builder.header H builder n v = builder.map fun parts => { parts with headers := parts.headers ++ [(n, v)] } := by
  simp only [Builder.header, hH.header_append]

theorem Builder.appendHeaders_eq (hH : HttpLaws H) (builder : Option Parts) (headers : List (HeaderName × HeaderValue)) :
    Builder.appendHeaders H builder headers =
      builder.map fun parts => { parts with headers := parts.headers ++ headers } := by
  induction headers generalizing builder with
  | nil => cases builder <;> simp [Builder.appendHeaders]
  | cons h headers ih =>
    rw [Builder.appendHeaders, List.foldl_cons, ← Builder.appendHeaders, ih, Builder.header_eq hH]
    cases builder <;> simp

/-- a header whose value is converted on the way in is there exactly when the conversion succeeds -/
theorem Builder.headerBytes_eq_some (hH : HttpLaws H) {builder : Option Parts} {n : HeaderName} {v : List UInt8}
    {p' : Parts} :
    Builder.headerBytes H builder n v = some p' ↔
      ∃ p value, builder = some p ∧ H.headerValueFromBytes v = some value ∧
        p' = { p with headers := p.headers ++ [(n, value)] } := by
  cases builder <;> simp [Builder.headerBytes, hH.header_append, eq_comm]

/-- `b'` is `b` with headers appended, each named in `names`, unless `b'` is a builder in error -/
def Extends (names : List HeaderName) (b b' : Option Parts) : Prop :=
  ∀ p', b' = some p' →
    ∃ p extras, b = some p ∧ p' = { p with headers := p.headers ++ extras } ∧ ∀ e ∈ extras, e.1 ∈ names

section Extends

variable {names : List HeaderName} {b b₁ b₂ : Option Parts}

theorem Extends.refl : Extends names b b := by
  rintro p rfl
  exact ⟨p, [], rfl, by simp, by simp⟩

theorem Extends.trans (h₁ : Extends names b b₁) (h₂ : Extends names b₁ b₂) : Extends names b b₂ := by
  intro p₂ hp₂
  obtain ⟨p₁, extras₂, hp₁, rfl, hnames₂⟩ := h₂ p₂ hp₂
  obtain ⟨p, extras₁, hp, rfl, hnames₁⟩ := h₁ p₁ hp₁
  refine ⟨p, extras₁ ++ extras₂, hp, by simp, fun e he => ?_⟩
  rcases List.mem_append.1 he with he | he
  · exact hnames₁ e he
  · exact hnames₂ e he

theorem extends_header (hH : HttpLaws H) {n : HeaderName} (hn : n ∈ names) (v : HeaderValue) :
    Extends names b (Builder.header H b n v) := by
  intro p' hp'
  rw [Builder.header_eq hH] at hp'
  obtain ⟨p, rfl, rfl⟩ := Option.map_eq_some_iff.1 hp'
  exact ⟨p, [(n, v)], rfl, rfl, by simpa using hn⟩

theorem extends_headerBytes (hH : HttpLaws H) {n : HeaderName} (hn : n ∈ names) (v : List UInt8) :
    Extends names b (Builder.headerBytes H b n v) := by
  intro p' hp'
  obtain ⟨p, value, rfl, -, rfl⟩ := (Builder.headerBytes_eq_some hH).1 hp'
  exact ⟨p, [(n, value)], rfl, rfl, by simpa using hn⟩

theorem extends_headerIfSome (hH : HttpLaws H) {n : HeaderName} (hn : n ∈ names) (v : Option HeaderValue) :
    Extends names b (Builder.headerIfSome H b n v) := by
  cases v with
  | none => exact Extends.refl
  | some v => exact extends_header hH hn v

theorem extends_ite {c : Prop} [Decidable c] (h : c → Extends names b b₁) :
    Extends names b (if c then b₁ else b) := by
  split
  · exact h ‹c›
  · exact Extends.refl

/-- a header added only when a condition holds and its value converts, as `x-request-id` is -/
theorem extends_of_ite_map (hH : HttpLaws H) {n : HeaderName} (hn : n ∈ names) {c : Bool}
    {v : Except BridgeError HeaderValue} (h : (if c = true then v.map (Builder.header H b n) else pure b) = .ok b₁) :
    Extends names b b₁ := by
  split at h
  · obtain ⟨value, -, rfl⟩ := Fallible.map_eq_ok h
    exact extends_header hH hn value
  · cases h
    exact Extends.refl

end Extends

/-- the names `apply_request_header_assembly` adds after `Host` -/
def laterNames : List HeaderName :=
  [.contentLength, .xRequestId, .traceparent, .forwarded, .xForwardedFor, .xForwardedProto, .xForwardedHost, .te]

/-- the names `apply_request_header_assembly` adds after the passthrough headers -/
def assemblyNames : List HeaderName :=
  [.host, .contentLength, .xRequestId, .traceparent, .forwarded, .xForwardedFor, .xForwardedProto, .xForwardedHost,
    .te]

theorem mem_assemblyNames_of_mem_laterNames {n : HeaderName} (hn : n ∈ laterNames) : n ∈ assemblyNames :=
  List.mem_cons_of_mem HeaderName.host hn

/-- past the passthrough headers and the optional `Host`, the assembly adds only headers of the later names -/
theorem applyRequestHeaderAssembly_after_host (hH : HttpLaws H) {builder builder' : Option Parts}
    {assembly : RequestHeaderAssembly} (h : applyRequestHeaderAssembly H builder assembly = .ok builder') :
    Extends laterNames
      (if assembly.includeHostHeader then
        Builder.headerBytes H (Builder.appendHeaders H builder assembly.resolvedHeaders.passthroughHeaders) .host
          (encode assembly.resolvedHeaders.hostValue)
      else Builder.appendHeaders H builder assembly.resolvedHeaders.passthroughHeaders) builder' := by
  unfold applyRequestHeaderAssembly at h
  dsimp only at h
  obtain ⟨withRequestId, hid, h⟩ := Fallible.bind_eq_ok h
  obtain ⟨withTrace, htrace, h⟩ := Fallible.bind_eq_ok h
  cases h
  -- from the last step back: `TE`, then the four forwarded headers
  refine Extends.trans ?_ (extends_ite fun _ => extends_headerBytes hH (by decide) _)
  refine Extends.trans ?_ (extends_headerIfSome hH (by decide) _)
  refine Extends.trans ?_ (extends_headerIfSome hH (by decide) _)
  refine Extends.trans ?_ (extends_headerIfSome hH (by decide) _)
  refine Extends.trans ?_ (extends_headerIfSome hH (by decide) _)
  -- `traceparent`, when the builder has none
  refine @Extends.trans _ _ withRequestId _ ?_ ?_
  swap
  · split at htrace
    · obtain ⟨v, -, rfl⟩ := Fallible.map_eq_ok htrace
      exact extends_header hH (by decide) v
    · cases htrace
      exact Extends.refl
  -- `x-request-id`, when the builder has none
  refine Extends.trans ?_ (extends_of_ite_map hH (by decide) hid)
  -- content length, when there is one
  generalize assembly.contentLength = contentLength
  cases contentLength with
  | none => exact Extends.refl
  | some len => exact extends_ite fun _ => extends_header hH (by decide) _

theorem Builder.body_eq_ok {builder : Option Parts} {parts : Parts} :
    Builder.body builder = .ok parts ↔ builder = some parts := by
  cases builder <;> simp [Builder.body]

/-! ## The built request -/

section Build

variable {target : RequestBuildTarget} {input : RequestBuildInput} {req : Parts}

/-- an HTTP/1.1 request carries the passthrough headers twice, then `Host` with the resolved value, then only headers
of the later names -/
theorem buildH1Request_headers (hH : HttpLaws H) (h : buildH1Request H target input = .ok req) :
    ∃ preserveUpgrade r,
      applyRequestHeaderPolicies H ⟨target, input.authority, input.headers, preserveUpgrade, input.forwarded⟩ = .ok r ∧
      ∃ host extras, H.headerValueFromBytes (encode r.hostValue) = some host ∧
        req.headers = r.passthroughHeaders ++ r.passthroughHeaders ++ (.host, host) :: extras ∧
        ∀ e ∈ extras, e.1 ∈ laterNames := by
  unfold buildH1Request at h
  dsimp only at h
  obtain ⟨method, -, h⟩ := Fallible.bind_eq_ok h
  obtain ⟨r, hr, h⟩ := Fallible.bind_eq_ok h
  obtain ⟨uri, -, h⟩ := Fallible.bind_eq_ok h
  obtain ⟨builder, hassembly, h⟩ := Fallible.bind_eq_ok h
  obtain ⟨p, extras, hp, rfl, hnames⟩ :=
    applyRequestHeaderAssembly_after_host hH hassembly req (Builder.body_eq_ok.1 h)
  -- the builder the assembly starts from already holds the passthrough headers, and HTTP/1.1 always sets `Host`
  rw [if_pos rfl, Builder.headerBytes_eq_some hH] at hp
  obtain ⟨q, host, hq, hhost, rfl⟩ := hp
  simp only [Builder.appendHeaders_eq hH, Builder.uri, Builder.method, Option.map_some, Option.some.injEq] at hq
  exact ⟨_, r, hr, host, extras, hhost, by simp [← hq], hnames⟩

/-- an HTTP/2 request carries the passthrough headers twice, then `Host` with the resolved value unless it is an
extended CONNECT, then only headers of the later names -/
theorem buildH2RequestForTarget_headers (hH : HttpLaws H) (h : buildH2RequestForTarget H target input = .ok req) :
    ∃ r, applyRequestHeaderPolicies H ⟨target, input.authority, input.headers, false, input.forwarded⟩ = .ok r ∧
      ∃ hostHeaders extras : List (HeaderName × HeaderValue), (hostHeaders = [] ∨
          ∃ host, H.headerValueFromBytes (encode r.hostValue) = some host ∧ hostHeaders = [(.host, host)]) ∧
        req.headers = r.passthroughHeaders ++ r.passthroughHeaders ++ hostHeaders ++ extras ∧
        ∀ e ∈ extras, e.1 ∈ laterNames := by
  unfold buildH2RequestForTarget at h
  dsimp only at h
  obtain ⟨method, -, h⟩ := Fallible.bind_eq_ok h
  obtain ⟨r, hr, h⟩ := Fallible.bind_eq_ok h
  obtain ⟨uri, -, h⟩ := Fallible.bind_eq_ok h
  obtain ⟨builder, hassembly, h⟩ := Fallible.bind_eq_ok h
  obtain ⟨p, extras, hp, rfl, hnames⟩ :=
    applyRequestHeaderAssembly_after_host hH hassembly req (Builder.body_eq_ok.1 h)
  refine ⟨r, hr, ?_⟩
  -- an extended CONNECT also sets the version and the protocol, which leave the headers alone, and sends no `Host`
  split at hp
  · rw [Builder.headerBytes_eq_some hH] at hp
    obtain ⟨q, host, hq, hhost, rfl⟩ := hp
    refine ⟨[(.host, host)], extras, Or.inr ⟨host, hhost, rfl⟩, ?_, hnames⟩
    split at hq <;>
      simp only [Builder.appendHeaders_eq hH, Builder.uri, Builder.method, Builder.version, Builder.extension,
        Option.map_some, Option.some.injEq] at hq <;>
      simp [← hq]
  · refine ⟨[], extras, Or.inl rfl, ?_, hnames⟩
    split at hp <;>
      simp only [Builder.appendHeaders_eq hH, Builder.uri, Builder.method, Builder.version, Builder.extension,
        Option.map_some, Option.some.injEq] at hp <;>
      simp [← hp]

/-- an end-to-end name: one the policy loop passes through and the assembly never adds -/
def EndToEnd (connectionTokens : List (List UInt8)) (name : HeaderName) : Prop :=
  shouldStripRequestHeader name connectionTokens false = false ∧ name ≠ .host ∧ name ≠ .xRequestId ∧
    name ≠ .traceparent

theorem EndToEnd.passesThrough {connectionTokens : List (List UInt8)} {n : HeaderName}
    (hn : EndToEnd connectionTokens n) (preserveUpgrade : Bool) : PassesThrough connectionTokens preserveUpgrade n := by
  refine ⟨?_, hn.2.1⟩
  cases preserveUpgrade
  · exact hn.1
  · exact shouldStripRequestHeader_preserve hn.1

theorem EndToEnd.not_mem_assemblyNames {connectionTokens : List (List UInt8)} {n : HeaderName}
    (hn : EndToEnd connectionTokens n) : n ∉ assemblyNames := by
  obtain ⟨hstrip, hhost, hid, htrace⟩ := hn
  intro hmem
  simp only [assemblyNames, List.mem_cons, List.not_mem_nil, or_false] at hmem
  -- what the assembly adds beyond host and the trace headers is stripped from the inbound headers
  have hstripped : n ∉ strippedNames := fun hs => by
    rw [shouldStripRequestHeader_of_mem_strippedNames hs] at hstrip
    cases hstrip
  rcases hmem with rfl | rfl | rfl | rfl | rfl | rfl | rfl | rfl | rfl
  · exact hhost rfl
  · exact hstripped (by decide)
  · exact hid rfl
  · exact htrace rfl
  all_goals exact hstripped (by decide)

/-- the `Host` headers an HTTP/2 request may carry are all named `Host` -/
theorem hostHeaders_named {hostHeaders : List (HeaderName × HeaderValue)} {hostValue : List UInt8}
    (h : hostHeaders = [] ∨ ∃ host, H.headerValueFromBytes hostValue = some host ∧ hostHeaders = [(.host, host)]) :
    ∀ e ∈ hostHeaders, e.1 = .host := by
  rcases h with rfl | ⟨host, -, rfl⟩ <;> simp

/-- `Host`, when it is there, and the later names are all names the assembly adds -/
theorem host_later_mem_assemblyNames {hostHeaders extras : List (HeaderName × HeaderValue)}
    (hhost : ∀ e ∈ hostHeaders, e.1 = .host) (hnames : ∀ e ∈ extras, e.1 ∈ laterNames) :
    ∀ e ∈ hostHeaders ++ extras, e.1 ∈ assemblyNames := by
  intro e he
  rcases List.mem_append.1 he with he | he
  · rw [hhost e he]
    exact List.mem_cons_self
  · exact mem_assemblyNames_of_mem_laterNames (hnames e he)

/-- a name the assembly never adds reads, in a request that holds the passthrough list twice, its passthrough
values twice -/
theorem getAll_twice {n : HeaderName} {passthrough extras : List (HeaderName × HeaderValue)}
    (hn : n ∉ assemblyNames) (hnames : ∀ e ∈ extras, e.1 ∈ assemblyNames) :
    getAll n (passthrough ++ passthrough ++ extras) = getAll n passthrough ++ getAll n passthrough := by
  have hextras : getAll n extras = [] := getAll_eq_nil fun e he heq => hn (heq ▸ hnames e he)
  rw [getAll_append, getAll_append, hextras, List.append_nil]

/-- an HTTP/1.1 request carries every inbound value of an end-to-end name twice, in arrival order -/
theorem buildH1Request_repeats_end_to_end (hH : HttpLaws H) {n : HeaderName}
    (h : buildH1Request H target input = .ok req) (hn : EndToEnd (connectionHeaderTokens input.headers) n) :
    (getAll n req.headers).map HeaderValue.bytes = inboundValues H n input.headers ++ inboundValues H n input.headers := by
  obtain ⟨preserveUpgrade, r, hr, host, extras, -, hheaders, hnames⟩ := buildH1Request_headers hH h
  have hadded := @host_later_mem_assemblyNames [(.host, host)] extras (by simp) hnames
  rw [hheaders, List.append_cons, List.append_assoc (r.passthroughHeaders ++ r.passthroughHeaders),
    getAll_twice hn.not_mem_assemblyNames hadded, List.map_append,
    (applyRequestHeaderPolicies_passthrough hH hr).2 n (hn.passesThrough preserveUpgrade)]

/-- an HTTP/2 request carries every inbound value of an end-to-end name twice, in arrival order -/
theorem buildH2RequestForTarget_repeats_end_to_end (hH : HttpLaws H) {n : HeaderName}
    (h : buildH2RequestForTarget H target input = .ok req)
    (hn : EndToEnd (connectionHeaderTokens input.headers) n) :
    (getAll n req.headers).map HeaderValue.bytes = inboundValues H n input.headers ++ inboundValues H n input.headers := by
  obtain ⟨r, hr, hostHeaders, extras, hhost, hheaders, hnames⟩ := buildH2RequestForTarget_headers hH h
  have hadded := host_later_mem_assemblyNames (hostHeaders_named hhost) hnames
  rw [hheaders, List.append_assoc (r.passthroughHeaders ++ r.passthroughHeaders),
    getAll_twice hn.not_mem_assemblyNames hadded, List.map_append,
    (applyRequestHeaderPolicies_passthrough hH hr).2 n (hn.passesThrough false)]

/-- in a built request only the assembly's own `Host` header is named `Host`: the policy loop sets every inbound
one aside, and the later names are other names -/
theorem getAll_host_built {passthrough hostHeaders extras : List (HeaderName × HeaderValue)}
    (hpass : ∀ e ∈ passthrough, e.1 ≠ .host) (hhost : ∀ e ∈ hostHeaders, e.1 = .host)
    (hnames : ∀ e ∈ extras, e.1 ∈ laterNames) :
    getAll .host (passthrough ++ passthrough ++ hostHeaders ++ extras) = hostHeaders.map Prod.snd := by
  have hpassthrough : getAll .host passthrough = [] := getAll_eq_nil hpass
  have hextras : getAll .host extras = [] :=
    getAll_eq_nil fun e he heq => absurd (heq ▸ hnames e he) (by decide)
  rw [getAll_append, getAll_append, getAll_append, hpassthrough, hextras, getAll_eq_map_snd hhost]
  simp

/-- an HTTP/1.1 request carries exactly one `Host` header, with the value the policies resolved -/
theorem buildH1Request_host (hH : HttpLaws H) (h : buildH1Request H target input = .ok req) :
    ∃ preserveUpgrade r,
      applyRequestHeaderPolicies H ⟨target, input.authority, input.headers, preserveUpgrade, input.forwarded⟩ = .ok r ∧
      (getAll .host req.headers).map HeaderValue.bytes = [encode r.hostValue] := by
  obtain ⟨preserveUpgrade, r, hr, host, extras, hhost, hheaders, hnames⟩ := buildH1Request_headers hH h
  refine ⟨preserveUpgrade, r, hr, ?_⟩
  rw [hheaders, List.append_cons,
    getAll_host_built (applyRequestHeaderPolicies_ne_host hH hr) (by simp) hnames]
  simp [(hH.headerValue_fromBytes _ _).1 hhost]

/-- an HTTP/2 request carries at most one `Host` header, with the value the policies resolved -/
theorem buildH2RequestForTarget_host (hH : HttpLaws H) (h : buildH2RequestForTarget H target input = .ok req) :
    ∃ r, applyRequestHeaderPolicies H ⟨target, input.authority, input.headers, false, input.forwarded⟩ = .ok r ∧
      ((getAll .host req.headers).map HeaderValue.bytes = [] ∨
        (getAll .host req.headers).map HeaderValue.bytes = [encode r.hostValue]) := by
  obtain ⟨r, hr, hostHeaders, extras, hhost, hheaders, hnames⟩ := buildH2RequestForTarget_headers hH h
  refine ⟨r, hr, ?_⟩
  rw [hheaders, getAll_host_built (applyRequestHeaderPolicies_ne_host hH hr) (hostHeaders_named hhost) hnames]
  -- an extended CONNECT sends no `Host`; any other request sends the resolved one
  rcases hhost with rfl | ⟨host, hhost, rfl⟩
  · left
    rfl
  · right
    simp [(hH.headerValue_fromBytes _ _).1 hhost]

/-! ## Which URIs the builders parse -/

section WithUri

variable (f : String → Bool)

/-- the method, the header policies and the header assembly do not call the URI parser -/
theorem parseMethod_withUri : parseMethod { H with uriTryFrom := f } = parseMethod H := rfl

theorem applyRequestHeaderPolicies_withUri :
    applyRequestHeaderPolicies { H with uriTryFrom := f } = applyRequestHeaderPolicies H := rfl

theorem appendHeaders_withUri : Builder.appendHeaders { H with uriTryFrom := f } = Builder.appendHeaders H := rfl

theorem applyRequestHeaderAssembly_withUri :
    applyRequestHeaderAssembly { H with uriTryFrom := f } = applyRequestHeaderAssembly H := rfl

end WithUri

/-- the HTTP/1.1 builder parses the URI of the request path and nothing else -/
theorem buildH1Request_uriTryFrom
    (h : H.uriTryFrom (target.endpoint.uriForPath (if input.path.isEmpty then "/" else input.path)) = true) :
    buildH1Request H target input = buildH1Request { H with uriTryFrom := fun _ => true } target input := by
  simp only [buildH1Request, uriTry, h, parseMethod_withUri, applyRequestHeaderPolicies_withUri, appendHeaders_withUri,
    applyRequestHeaderAssembly_withUri]

/-- for a request that is no websocket and no `CONNECT`, the HTTP/2 builder too parses the URI of the path only -/
theorem buildH2RequestForTarget_uriTryFrom {method : List UInt8} (hmethod : parseMethod H input.method = .ok method)
    (hkind : h3WebsocketRequestKind method input.headers = .none) (hconnect : method ≠ utf8 "CONNECT")
    (h : H.uriTryFrom (target.endpoint.uriForPath (if input.path.isEmpty then "/" else input.path)) = true) :
    buildH2RequestForTarget H target input =
      buildH2RequestForTarget { H with uriTryFrom := fun _ => true } target input := by
  have hplain : (H3WebsocketRequestKind.none == .extendedConnect || H3WebsocketRequestKind.none == .legacyUpgrade) =
      false := by decide
  have hconnect' : (method == utf8 "CONNECT") = false := by simpa using hconnect
  unfold buildH2RequestForTarget
  rw [parseMethod_withUri (H := H) (fun _ => true), show parseMethod H input.method = pure method from hmethod]
  simp only [pure_bind, hkind, hplain, hconnect', uriTry, h, Bool.false_eq_true, ↓reduceIte,
    applyRequestHeaderPolicies_withUri, appendHeaders_withUri, applyRequestHeaderAssembly_withUri]

end Build

/-! ## One end-to-end header -/

def acceptTarget : RequestBuildTarget := ⟨⟨.https, "example.com:443".toList⟩, ⟨{}, {}⟩⟩

/-- a `GET /` with one `accept` header -/
def acceptRequest : RequestBuildInput :=
  ⟨"GET", "/", some "example.com", [⟨utf8 "accept", utf8 "text/html"⟩], none, ⟨7, none⟩, ⟨⟨"203.0.113.9", false⟩⟩⟩

def acceptName : HeaderName := ⟨utf8 "accept", by decide⟩

/-- over `referenceHttp` both builders send the one inbound `accept` value twice -/
theorem accept_twice_referenceHttp :
    (∃ req, buildH1Request referenceHttp acceptTarget acceptRequest = .ok req ∧
      (getAll acceptName req.headers).map HeaderValue.bytes = [utf8 "text/html", utf8 "text/html"]) ∧
    (∃ req, buildH2RequestForTarget referenceHttp acceptTarget acceptRequest = .ok req ∧
      (getAll acceptName req.headers).map HeaderValue.bytes = [utf8 "text/html", utf8 "text/html"]) :=
  ⟨⟨_, rfl, by decide⟩, ⟨_, rfl, by decide⟩⟩

/-- a method that is a token parses to itself -/
theorem parseMethod_of_token (hH : HttpLaws H) {method : String} (hne : utf8 method ≠ [])
    (htchar : (utf8 method).all isTchar = true) : parseMethod H method = .ok (utf8 method) := by
  rw [parseMethod, (hH.method_fromBytes _ _).2 ⟨rfl, hne, htchar⟩]

/-- whichever `http` crate meets the laws and accepts the URI `https://example.com:443/`, both builders send the one
inbound `accept` value twice -/
theorem bridge_sends_accept_twice (H : HttpOps) (hH : HttpLaws H)
    (huri : H.uriTryFrom (acceptTarget.endpoint.uriForPath "/") = true) :
    (∃ req, buildH1Request H acceptTarget acceptRequest = .ok req ∧
      (getAll acceptName req.headers).map HeaderValue.bytes = [utf8 "text/html", utf8 "text/html"]) ∧
    (∃ req, buildH2RequestForTarget H acceptTarget acceptRequest = .ok req ∧
      (getAll acceptName req.headers).map HeaderValue.bytes = [utf8 "text/html", utf8 "text/html"]) := by
  have hget : parseMethod H acceptRequest.method = .ok (utf8 "GET") := parseMethod_of_token hH (by decide) (by decide)
  -- the URI parser is asked about this URI only, and the laws fix every other call
  rw [@buildH1Request_uriTryFrom H acceptTarget acceptRequest huri,
    @buildH2RequestForTarget_uriTryFrom H acceptTarget acceptRequest (utf8 "GET") hget (by decide) (by decide) huri,
    hH.eq_referenceHttp]
  exact accept_twice_referenceHttp

/-- the theorem above over `referenceHttp` -/
theorem accept_sent_twice_over_both :
    (∃ req, buildH1Request referenceHttp acceptTarget acceptRequest = .ok req ∧
      (getAll acceptName req.headers).map HeaderValue.bytes = [utf8 "text/html", utf8 "text/html"]) ∧
    (∃ req, buildH2RequestForTarget referenceHttp acceptTarget acceptRequest = .ok req ∧
      (getAll acceptName req.headers).map HeaderValue.bytes = [utf8 "text/html", utf8 "text/html"]) :=
  bridge_sends_accept_twice referenceHttp referenceHttp_laws rfl

theorem acceptName_endToEnd : EndToEnd (connectionHeaderTokens acceptRequest.headers) acceptName := by
  unfold EndToEnd
  decide

/-- the general theorem at the `accept` request -/
theorem accept_repeats_over_h1 : ∃ req, buildH1Request referenceHttp acceptTarget acceptRequest = .ok req ∧
    (getAll acceptName req.headers).map HeaderValue.bytes =
      inboundValues referenceHttp acceptName acceptRequest.headers ++
        inboundValues referenceHttp acceptName acceptRequest.headers :=
  ⟨_, rfl, @buildH1Request_repeats_end_to_end referenceHttp acceptTarget acceptRequest _ referenceHttp_laws acceptName rfl
    acceptName_endToEnd⟩

theorem accept_repeats_over_h2 : ∃ req, buildH2RequestForTarget referenceHttp acceptTarget acceptRequest = .ok req ∧
    (getAll acceptName req.headers).map HeaderValue.bytes =
      inboundValues referenceHttp acceptName acceptRequest.headers ++
        inboundValues referenceHttp acceptName acceptRequest.headers :=
  ⟨_, rfl, @buildH2RequestForTarget_repeats_end_to_end referenceHttp acceptTarget acceptRequest _ referenceHttp_laws
    acceptName rfl acceptName_endToEnd⟩

end Spooky.Bridge
