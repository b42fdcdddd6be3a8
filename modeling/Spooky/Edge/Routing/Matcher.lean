/-
Route matching (`crates/edge/src/routing/`): the segment-boundary test of `util.rs`, host normalisation and configured
host patterns of `host.rs`, the route records of `route.rs` and `decision.rs`, and the comparisons of `matcher.rs`.

Paths, hosts and methods are byte strings (`Text`). `parse_configured_host_pattern_ref` returns a borrowing twin of
`ConfiguredHostPattern` with the same two cases; both are `ConfiguredHostPattern` here, and both parsers are
`hostPattern` applied to the host they start from.

The comparison `compareRouteCandidate` decides whether a candidate route replaces the current one: a longer path
prefix, then a host-specific route, then an exact over a wildcard over no host match, then a longer wildcard suffix,
then a method-specific route, then the lower position in name order.

Left out: the `Display` texts of `RouteDecisionReason`, which no modelled function reads.
-/
import Spooky.Lib.Text

namespace Spooky.Edge.Routing

open Text

/-- `prefix_boundary_matches`: the prefix ends the path or is followed by `/` (a prefix of at most one byte always
matches) -/
def prefixBoundaryMatches (path : List UInt8) (prefixLen : ℕ) : Bool :=
  if prefixLen ≤ 1 then true
  else if path.length = prefixLen then true
  else path[prefixLen]? == some 47

/-! ## Hosts -/

/-- `parsed_host_for_routing`: the host of an authority, without port, brackets or trailing dots -/
def parsedHostForRouting (raw : String) : Option (List UInt8) :=
  let trimmed := trim raw
  if trimmed.isEmpty then none
  else
    let host : Option (List UInt8) :=
      match stripPrefix [91] trimmed with
      | some rest => (find 93 rest).map fun close => rest.take close
      | none =>
        match rsplitOnce 58 trimmed with
        | some (candidateHost, candidatePort) =>
          if !candidateHost.contains 58 && candidatePort.all isAsciiDigit then some candidateHost else some trimmed
        | none => some trimmed
    host.bind fun host =>
      let host := trimEndMatches 46 host
      if host.isEmpty then none else some host

/-- `normalize_host_for_routing`: the parsed host in ASCII lower case -/
def normalizeHostForRouting (raw : String) : Option (List UInt8) :=
  (parsedHostForRouting raw).map fun host => if host.any isAsciiUppercase then host.map toAsciiLowercase else host

inductive ConfiguredHostPattern where
  | exact (host : List UInt8)
  | wildcardSuffix (suffix : List UInt8)
deriving DecidableEq, Repr

/-- the common body of both parsers: `*.S` with `S` non-empty and free of `*` is a wildcard, any other host exact -/
def hostPattern (host : List UInt8) : ConfiguredHostPattern :=
  match stripPrefix [42, 46] host with
  | none => .exact host
  | some suffix => if suffix.isEmpty || suffix.contains 42 then .exact host else .wildcardSuffix suffix

def parseConfiguredHostPattern (raw : String) : Option ConfiguredHostPattern :=
  (normalizeHostForRouting raw).map hostPattern

def parseConfiguredHostPatternRef (raw : String) : Option ConfiguredHostPattern :=
  (parsedHostForRouting raw).map hostPattern

/-! ## Routes and decisions -/

structure IndexedRoute where
  upstreamIdx : ℕ
  pathLen : ℕ
  hostSpecific : Bool
  methodSpecific : Bool
  order : ℕ
deriving DecidableEq, Repr

inductive HostMatchKind where
  | default
  | wildcard
  | exact
deriving DecidableEq, Repr

/-- the derived order `Default < Wildcard < Exact` -/
def HostMatchKind.rank : HostMatchKind → ℕ
  | .default => 0
  | .wildcard => 1
  | .exact => 2

structure RouteCandidate where
  route : IndexedRoute
  hostMatchKind : HostMatchKind
  wildcardSuffixLen : ℕ
deriving DecidableEq, Repr

inductive RoutePreference where
  | keepCurrent
  | takeCandidatePathLen
  | takeCandidateHostSpecific
  | takeCandidateExactHost
  | takeCandidateWildcardSpecificity
  | takeCandidateMethodSpecific
  | takeCandidateLexicalOrder
deriving DecidableEq, Repr

inductive RouteDecisionReason where
  | hostTrieNoDefault
  | hostPathLongerOrEqual
  | defaultPathLonger
  | hostSpecificTieBreak
  | exactHostTieBreak
  | wildcardSpecificityTieBreak
  | methodSpecificTieBreak
  | lexicalTieBreak
deriving DecidableEq, Repr

structure HostLookupResult where
  candidate : RouteCandidate
  decisionReason : Option RouteDecisionReason
deriving DecidableEq, Repr

structure RouteDecision where
  upstream : String
  matchedPathLen : ℕ
  hostSpecific : Bool
  reason : RouteDecisionReason
deriving DecidableEq, Repr

def routePreferenceReason : RoutePreference → Option RouteDecisionReason
  | .keepCurrent => none
  | .takeCandidatePathLen => some .hostPathLongerOrEqual
  | .takeCandidateHostSpecific => some .hostSpecificTieBreak
  | .takeCandidateExactHost => some .exactHostTieBreak
  | .takeCandidateWildcardSpecificity => some .wildcardSpecificityTieBreak
  | .takeCandidateMethodSpecific => some .methodSpecificTieBreak
  | .takeCandidateLexicalOrder => some .lexicalTieBreak

/-! ## The comparisons -/

/-- `compare_route`: within one trie, where host match kinds are all equal -/
def compareRoute (current candidate : IndexedRoute) : RoutePreference :=
  if candidate.pathLen > current.pathLen then .takeCandidatePathLen
  else if candidate.pathLen = current.pathLen ∧ candidate.hostSpecific ∧ !current.hostSpecific then
    .takeCandidateHostSpecific
  else if candidate.pathLen = current.pathLen ∧ candidate.hostSpecific = current.hostSpecific ∧
      candidate.methodSpecific ∧ !current.methodSpecific then
    .takeCandidateMethodSpecific
  else if candidate.pathLen = current.pathLen ∧ candidate.hostSpecific = current.hostSpecific ∧
      candidate.methodSpecific = current.methodSpecific ∧ candidate.order < current.order then
    .takeCandidateLexicalOrder
  else .keepCurrent

def compareRouteCandidate (current candidate : RouteCandidate) : RoutePreference :=
  let wildcardSpecificityEqual :=
    candidate.hostMatchKind ≠ .wildcard ∨ current.hostMatchKind ≠ .wildcard ∨
      candidate.wildcardSuffixLen = current.wildcardSuffixLen
  if candidate.route.pathLen > current.route.pathLen then .takeCandidatePathLen
  else if candidate.route.pathLen = current.route.pathLen ∧ candidate.route.hostSpecific ∧
      !current.route.hostSpecific then
    .takeCandidateHostSpecific
  else if candidate.route.pathLen = current.route.pathLen ∧
      candidate.hostMatchKind.rank > current.hostMatchKind.rank then
    .takeCandidateExactHost
  else if candidate.route.pathLen = current.route.pathLen ∧ candidate.hostMatchKind = .wildcard ∧
      current.hostMatchKind = .wildcard ∧ candidate.wildcardSuffixLen > current.wildcardSuffixLen then
    .takeCandidateWildcardSpecificity
  else if candidate.route.pathLen = current.route.pathLen ∧ candidate.hostMatchKind = current.hostMatchKind ∧
      wildcardSpecificityEqual ∧ candidate.route.methodSpecific ∧ !current.route.methodSpecific then
    .takeCandidateMethodSpecific
  else if candidate.route.pathLen = current.route.pathLen ∧ candidate.hostMatchKind = current.hostMatchKind ∧
      wildcardSpecificityEqual ∧ candidate.route.methodSpecific = current.route.methodSpecific ∧
      candidate.route.order < current.route.order then
    .takeCandidateLexicalOrder
  else .keepCurrent

def preferRouteCandidate : Option RouteCandidate → Option RouteCandidate → Option RouteCandidate
  | none, none => none
  | some route, none => some route
  | none, some route => some route
  | some current, some candidate =>
    match compareRouteCandidate current candidate with
    | .keepCurrent => some current
    | _ => some candidate

def preferHostLookupResult : Option HostLookupResult → Option HostLookupResult → Option HostLookupResult
  | none, none => none
  | some route, none => some route
  | none, some candidate => some candidate
  | some current, some candidate =>
    match compareRouteCandidate current.candidate candidate.candidate with
    | .keepCurrent =>
      some ⟨current.candidate, (current.decisionReason.or candidate.decisionReason).or
        (routePreferenceReason (compareRouteCandidate candidate.candidate current.candidate))⟩
    | preference => some ⟨candidate.candidate, candidate.decisionReason.or (routePreferenceReason preference)⟩

/-- `route_matches_method`: the upstream's method, stored trimmed and upper-cased, against the request's -/
def routeMatchesMethod (route : IndexedRoute) (method : Option (List UInt8))
    (upstreamMethods : List (Option (List UInt8))) : Bool :=
  match method with
  | none => true
  | some method =>
    match upstreamMethods[route.upstreamIdx]?.join with
    | some expected => eqIgnoreAsciiCase expected method
    | none => true

/-- one iteration of the loop of `best_matching_route_with_reason` -/
def bestMatchingStep (path : List UInt8) (method : Option (List UInt8)) (upstreamMethods : List (Option (List UInt8)))
    (best : Option (IndexedRoute × Option RouteDecisionReason)) (route : IndexedRoute) :
    Option (IndexedRoute × Option RouteDecisionReason) :=
  if !prefixBoundaryMatches path route.pathLen then best
  else if !routeMatchesMethod route method upstreamMethods then best
  else
    match best with
    | none => some (route, none)
    | some (currentRoute, currentReason) =>
      match compareRoute currentRoute route with
      | .keepCurrent => some (currentRoute, currentReason.or (routePreferenceReason (compareRoute route currentRoute)))
      | preference => some (route, routePreferenceReason preference)

def bestMatchingRouteWithReason (routes : List IndexedRoute) (path : List UInt8) (method : Option (List UInt8))
    (upstreamMethods : List (Option (List UInt8))) (current : Option (IndexedRoute × Option RouteDecisionReason)) :
    Option (IndexedRoute × Option RouteDecisionReason) :=
  routes.foldl (bestMatchingStep path method upstreamMethods) current

end Spooky.Edge.Routing
