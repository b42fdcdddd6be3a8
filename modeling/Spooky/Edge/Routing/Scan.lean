/-
The linear route scan (`crates/edge/src/routing/scan.rs`), the reference the index is tested against.

The upstream map is a list of `(name, route)` pairs in the map's iteration order, which `HashMap` leaves unspecified:
every order of the list is a possible run. Only the `route` of an upstream is read, so an upstream is its
`RouteMatch`. Each upstream that matches the request becomes a candidate, and replaces the best so far when one of
six clauses holds (`scanBetter`).

`request_host.get(suffix_start..)` is `None` when `suffix_start` falls inside a character; the tail is then compared
as bytes here. The two agree: a tail equal to the suffix up to ASCII case starts with the suffix's first byte up to
case, which begins a character.
-/
import Spooky.Edge.Routing.Matcher

namespace Spooky.Edge.Routing

open Text

/-- `spooky_config::config::RouteMatch` -/
structure RouteMatch where
  host : Option String
  pathPrefix : Option String
  method : Option String
deriving DecidableEq, Repr

/-- the tuple `best_match` holds -/
structure ScanMatch where
  name : String
  pathMatchLen : ℕ
  hostSpecific : Bool
  hostMatchKind : HostMatchKind
  wildcardSuffixLen : ℕ
  methodSpecific : Bool
deriving DecidableEq, Repr

/-- `has_method_match`: both methods trimmed, compared up to ASCII case -/
def hasMethodMatch (route : RouteMatch) (method : Option String) : Bool :=
  match route.method, method with
  | some routeMethod, some requestMethod => eqIgnoreAsciiCase (trim routeMethod) (trim requestMethod)
  | _, _ => true

/-! ## Wildcard hosts -/

/-- what the documentation asks of a wildcard `*.S`: the host is a non-empty label, a `.`, then `S` -/
def WildcardMatches (suffix host : List UInt8) : Prop := ∃ label, label ≠ [] ∧ host = label ++ 46 :: suffix

theorem wildcardMatches_iff (suffix host : List UInt8) :
    WildcardMatches suffix host ↔ suffix.length + 1 < host.length ∧ host.drop (host.length - suffix.length - 1) =
      46 :: suffix := by
  constructor
  · rintro ⟨label, hne, rfl⟩
    have hpos : 0 < label.length := List.length_pos_iff.2 hne
    simp only [List.length_append, List.length_cons]
    refine ⟨by omega, ?_⟩
    rw [show label.length + (suffix.length + 1) - suffix.length - 1 = label.length by omega, List.drop_left]
  · rintro ⟨hlen, hdrop⟩
    refine ⟨host.take (host.length - suffix.length - 1), ?_, ?_⟩
    · intro h
      rcases List.take_eq_nil_iff.1 h with h | rfl
      · omega
      · simp at hlen
    · rw [← hdrop, List.take_append_drop]

instance (suffix host : List UInt8) : Decidable (WildcardMatches suffix host) :=
  decidable_of_iff _ (wildcardMatches_iff suffix host).symm

/-- the scan's test of a wildcard suffix against the request host -/
def wildcardSuffixMatches (suffix requestHost : List UInt8) : Bool :=
  let suffixStart := requestHost.length - suffix.length
  decide (requestHost.length > suffix.length + 1) && eqIgnoreAsciiCase (requestHost.drop suffixStart) suffix &&
    requestHost[suffixStart - 1]? == some 46

/-- the scan's test is the documented one, up to ASCII case -/
theorem wildcardSuffixMatches_iff (suffix requestHost : List UInt8) :
    wildcardSuffixMatches suffix requestHost = true ↔
      WildcardMatches (suffix.map toAsciiLowercase) (requestHost.map toAsciiLowercase) := by
  rw [wildcardMatches_iff, List.length_map, List.length_map]
  simp only [wildcardSuffixMatches, eqIgnoreAsciiCase, Bool.and_eq_true, decide_eq_true_eq, beq_iff_eq]
  constructor
  · rintro ⟨⟨hlen, htail⟩, hdot⟩
    -- the byte before the suffix is the dot, and the rest is the suffix up to case
    have hi : requestHost.length - suffix.length - 1 < requestHost.length := by omega
    rw [List.getElem?_eq_getElem hi, Option.some.injEq] at hdot
    refine ⟨hlen, ?_⟩
    rw [← List.map_drop, List.drop_eq_getElem_cons hi, List.map_cons, hdot,
      show requestHost.length - suffix.length - 1 + 1 = requestHost.length - suffix.length by omega, htail]
    rfl
  · rintro ⟨hlen, hdrop⟩
    have hi : requestHost.length - suffix.length - 1 < requestHost.length := by omega
    rw [← List.map_drop, List.drop_eq_getElem_cons hi, List.map_cons, List.cons.injEq,
      show requestHost.length - suffix.length - 1 + 1 = requestHost.length - suffix.length by omega] at hdrop
    obtain ⟨hdot, htail⟩ := hdrop
    refine ⟨⟨hlen, htail⟩, ?_⟩
    rw [List.getElem?_eq_getElem hi, (toAsciiLowercase_eq_iff rfl rfl _).1 hdot]

/-- `(has_host_match, host_match_kind, wildcard_suffix_len)` -/
def scanHostMatch (route : RouteMatch) (normalizedRequestHost : Option (List UInt8)) : Bool × HostMatchKind × ℕ :=
  match route.host, normalizedRequestHost with
  | none, _ => (true, .default, 0)
  | some _, none => (false, .default, 0)
  | some routeHost, some requestHost =>
    match parseConfiguredHostPatternRef routeHost with
    | some (.exact routeHostExact) => (eqIgnoreAsciiCase routeHostExact requestHost, .exact, 0)
    | some (.wildcardSuffix suffix) => (wildcardSuffixMatches suffix requestHost, .wildcard, suffix.length)
    | none => (false, .default, 0)

/-- `path_match_len`, or none where the loop continues -/
def pathMatchLen (route : RouteMatch) (path : List UInt8) : Option ℕ :=
  match route.pathPrefix with
  | some pathPrefix =>
    let pre := utf8 pathPrefix
    if pre.length > path.length then none
    -- the fast reject on the last byte, before `starts_with`
    else if pre ≠ [] ∧ path[pre.length - 1]? ≠ pre.getLast? then none
    else if !pre.isPrefixOf path then none
    else if !prefixBoundaryMatches path pre.length then none
    else some pre.length
  | none => some 0

/-- the candidate an upstream makes, or none where the loop continues -/
def scanCandidate (path : List UInt8) (normalizedRequestHost : Option (List UInt8)) (method : Option String)
    (upstream : String × RouteMatch) : Option ScanMatch :=
  if !hasMethodMatch upstream.2 method then none
  else
    let hostMatch := scanHostMatch upstream.2 normalizedRequestHost
    (pathMatchLen upstream.2 path).bind fun len =>
      if !hostMatch.1 then none
      else
        some ⟨upstream.1, len, upstream.2.host.isSome, hostMatch.2.1, hostMatch.2.2,
          upstream.2.method.any fun value => !(trim value).isEmpty⟩

/-- the six clauses under which a candidate replaces the best match -/
def scanBetter (c best : ScanMatch) : Bool :=
  decide (c.pathMatchLen > best.pathMatchLen) ||
    (decide (c.pathMatchLen = best.pathMatchLen) && c.hostSpecific && !best.hostSpecific) ||
    (decide (c.pathMatchLen = best.pathMatchLen) && c.hostSpecific == best.hostSpecific &&
      decide (c.hostMatchKind.rank > best.hostMatchKind.rank)) ||
    (decide (c.pathMatchLen = best.pathMatchLen) && c.hostSpecific == best.hostSpecific &&
      c.hostMatchKind == .wildcard && best.hostMatchKind == .wildcard &&
      decide (c.wildcardSuffixLen > best.wildcardSuffixLen)) ||
    (decide (c.pathMatchLen = best.pathMatchLen) && c.hostSpecific == best.hostSpecific &&
      c.hostMatchKind == best.hostMatchKind && c.methodSpecific && !best.methodSpecific) ||
    (decide (c.pathMatchLen = best.pathMatchLen) && c.hostSpecific == best.hostSpecific &&
      c.hostMatchKind == best.hostMatchKind && c.methodSpecific == best.methodSpecific && decide (c.name < best.name))

/-- one iteration of the loop of `scan_lookup_for_method` -/
def scanStep (path : List UInt8) (normalizedRequestHost : Option (List UInt8)) (method : Option String)
    (best : Option ScanMatch) (upstream : String × RouteMatch) : Option ScanMatch :=
  match scanCandidate path normalizedRequestHost method upstream with
  | none => best
  | some c =>
    match best with
    | none => some c
    | some b => if scanBetter c b then some c else some b

def scanLookupForMethod (upstreams : List (String × RouteMatch)) (path : String) (host method : Option String) :
    Option String :=
  (upstreams.foldl (scanStep (utf8 path) (host.bind normalizeHostForRouting) method) none).map ScanMatch.name

end Spooky.Edge.Routing
