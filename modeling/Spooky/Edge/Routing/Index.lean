/-
The route index (`crates/edge/src/routing/index.rs`): one trie per exact host, one per wildcard suffix, and one for
routes without a host, built from the upstreams in name order.

A lookup normalises the request host, takes the best route of the exact host's trie and of the trie of every suffix
that follows a `.` of the host, and compares it with the best route of the default trie, unless its path prefix is at
least as long as every default prefix (`default_max_path_len`), in which case it wins outright.

`self.upstream_names[idx]` panics past the end: the lookups return `none` then, and their answer otherwise.

Results:
- `wildcardWalk_eq_foldl`, `mem_dotSuffixes_iff_wildcard`: the index offers the wildcard trie of every suffix that
  follows a `.` of the host, which is the documented match (`WildcardMatches`, a non-empty label before the dot)
  and also a host made of a dot and the suffix alone; the scan tests the documented match
  (`wildcardSuffixMatches_iff`).
- `index_routes_empty_label_to_wildcard`: so both index lookups route the host `.a` to the upstream of `*.a`, which
  the scan and the documentation do not.
- `scan_answer_depends_on_map_order`: the scan's six clauses are no order, and its answer depends on the iteration
  order of the map.

Left out: `from_runtime_upstreams`, which builds the same index from the runtime configuration, and the `lookup`
and `lookup_with_decision` wrappers, which pass no method.
-/
import Spooky.Edge.Routing.Trie
import Spooky.Edge.Routing.Scan

namespace Spooky.Edge.Routing

open Text KeyedList

/-- `IndexedRouteSource` -/
structure IndexedRouteSource where
  name : String
  method : Option (List UInt8)
  pathPrefix : Option (List UInt8)
  pathLen : ℕ
  hostSpecific : Bool
  methodSpecific : Bool
  hostPattern : Option ConfiguredHostPattern
  order : ℕ

structure RouteIndex where
  hostTries : List (List UInt8 × RouteTrie)
  wildcardHostTries : List (List UInt8 × RouteTrie)
  defaultTrie : RouteTrie
  defaultMaxPathLen : ℕ
  upstreamNames : List String
  upstreamMethods : List (Option (List UInt8))

namespace RouteIndex

/-- `entry(key).or_insert_with(RouteTrie::default).insert(path_prefix, route)` -/
def insertInto (key : List UInt8) (pathPrefix : Option (List UInt8)) (route : IndexedRoute)
    (tries : List (List UInt8 × RouteTrie)) : List (List UInt8 × RouteTrie) :=
  upsert key (((get key tries).getD RouteTrie.default).insert pathPrefix route) tries

/-- one iteration of the loop of `from_ordered_routes` -/
def addRoute (index : RouteIndex) (source : IndexedRouteSource) : RouteIndex :=
  let route : IndexedRoute :=
    ⟨index.upstreamNames.length, source.pathLen, source.hostSpecific, source.methodSpecific, source.order⟩
  let index := { index with upstreamNames := index.upstreamNames ++ [source.name],
                            upstreamMethods := index.upstreamMethods ++ [source.method] }
  match source.hostPattern with
  | some (.wildcardSuffix suffix) =>
    { index with wildcardHostTries := insertInto suffix source.pathPrefix route index.wildcardHostTries }
  | some (.exact normalizedHost) =>
    { index with hostTries := insertInto normalizedHost source.pathPrefix route index.hostTries }
  | none =>
    { index with defaultMaxPathLen := max index.defaultMaxPathLen source.pathLen,
                 defaultTrie := index.defaultTrie.insert source.pathPrefix route }

def fromOrderedRoutes (routes : List IndexedRouteSource) : RouteIndex :=
  routes.foldl addRoute ⟨[], [], RouteTrie.default, 0, [], []⟩

/-- the source of the upstream at position `order` in name order -/
def routeSource (upstream : String × RouteMatch) (order : ℕ) : IndexedRouteSource where
  name := upstream.1
  method := upstream.2.method.bind fun value =>
    let value := trim value
    if value.isEmpty then none else some (value.map toAsciiUppercase)
  pathPrefix := upstream.2.pathPrefix.map utf8
  pathLen := (upstream.2.pathPrefix.map fun pathPrefix => (utf8 pathPrefix).length).getD 0
  hostSpecific := upstream.2.host.isSome
  methodSpecific := upstream.2.method.isSome
  hostPattern := upstream.2.host.bind parseConfiguredHostPattern
  order := order

/-- `from_upstreams`: `sort_by_key` is stable, as insertion sort is, so both give the same order -/
def fromUpstreams (upstreams : List (String × RouteMatch)) : RouteIndex :=
  let ordered := upstreams.insertionSort fun left right => left.1 ≤ right.1
  fromOrderedRoutes (ordered.zipIdx.map fun (upstream, order) => routeSource upstream order)

/-- the best route of a trie as a host lookup result -/
def trieResult (index : RouteIndex) (trie : RouteTrie) (path : List UInt8) (method : Option (List UInt8))
    (kind : HostMatchKind) (wildcardSuffixLen : ℕ) : Option HostLookupResult :=
  (trie.longestPrefixWithReason path method index.upstreamMethods).map fun best =>
    ⟨⟨best.1, kind, wildcardSuffixLen⟩, best.2⟩

/-- the `while let Some(dot_idx) = remaining.find('.')` loop: each byte up to the next `.` is skipped, the suffix
after it is looked up, and an empty suffix ends the loop -/
def wildcardWalk (index : RouteIndex) (path : List UInt8) (method : Option (List UInt8)) :
    List UInt8 → Option HostLookupResult → Option HostLookupResult
  | [], best => best
  | b :: suffix, best =>
    if b = 46 then
      if suffix.isEmpty then best
      else
        let candidate := (get suffix index.wildcardHostTries).map fun trie =>
          index.trieResult trie path method .wildcard suffix.length
        match candidate with
        | some candidate => wildcardWalk index path method suffix (preferHostLookupResult best candidate)
        | none => wildcardWalk index path method suffix best
    else wildcardWalk index path method suffix best

def lookupHostCandidate (index : RouteIndex) (path normalizedHost : List UInt8) (method : Option (List UInt8)) :
    Option HostLookupResult :=
  let exactBest := (get normalizedHost index.hostTries).bind fun trie =>
    index.trieResult trie path method .exact 0
  preferHostLookupResult (index.wildcardWalk path method normalizedHost none) exactBest

/-- the host's best result, over a request path and method as bytes -/
def hostBest (index : RouteIndex) (path : List UInt8) (host : Option String) (method : Option (List UInt8)) :
    Option HostLookupResult :=
  (host.bind normalizeHostForRouting).bind fun normalizedHost => index.lookupHostCandidate path normalizedHost method

def upstreamName (index : RouteIndex) (route : IndexedRoute) : Option String := index.upstreamNames[route.upstreamIdx]?

/-- `lookup_for_method`: none when an index panics, else the answer -/
def lookupForMethod (index : RouteIndex) (path : String) (host method : Option String) : Option (Option String) :=
  let path := utf8 path
  let method := method.map utf8
  let hostBest := index.hostBest path host method
  match hostBest.filter fun best => index.defaultMaxPathLen ≤ best.candidate.route.pathLen with
  | some best => (index.upstreamName best.candidate.route).map some
  | none =>
    let defaultBest := (index.defaultTrie.longestPrefix path method index.upstreamMethods).map fun route =>
      (⟨route, .default, 0⟩ : RouteCandidate)
    match preferRouteCandidate defaultBest (hostBest.map HostLookupResult.candidate) with
    | some candidate => (index.upstreamName candidate.route).map some
    | none => some none

/-- the reason given when the host's route wins outright -/
def hostWinsReason (defaultBest : Option HostLookupResult) (best : HostLookupResult) : RouteDecisionReason :=
  match defaultBest with
  | none => .hostTrieNoDefault
  | some defaultRoute =>
    match compareRouteCandidate defaultRoute.candidate best.candidate with
    | .takeCandidateHostSpecific => .hostSpecificTieBreak
    | .takeCandidateExactHost => .exactHostTieBreak
    | .takeCandidateWildcardSpecificity => .wildcardSpecificityTieBreak
    | .takeCandidateMethodSpecific => .methodSpecificTieBreak
    | .takeCandidateLexicalOrder => .lexicalTieBreak
    | _ => .hostPathLongerOrEqual

/-- the reason for the preference of the host's route over the default one -/
def preferenceReason : RoutePreference → RouteDecisionReason
  | .takeCandidatePathLen => .hostPathLongerOrEqual
  | .takeCandidateHostSpecific => .hostSpecificTieBreak
  | .takeCandidateExactHost => .exactHostTieBreak
  | .takeCandidateWildcardSpecificity => .wildcardSpecificityTieBreak
  | .takeCandidateMethodSpecific => .methodSpecificTieBreak
  | .takeCandidateLexicalOrder => .lexicalTieBreak
  | .keepCurrent => .defaultPathLonger

/-- the decision for a selected candidate -/
def decision (index : RouteIndex) (candidate : RouteCandidate) (reason : RouteDecisionReason) :
    Option RouteDecision :=
  (index.upstreamName candidate.route).map fun upstream =>
    ⟨upstream, candidate.route.pathLen, candidate.route.hostSpecific, reason⟩

/-- `lookup_with_decision_for_method`: none when an index panics, else the answer -/
def lookupWithDecisionForMethod (index : RouteIndex) (path : String) (host method : Option String) :
    Option (Option RouteDecision) :=
  let path := utf8 path
  let method := method.map utf8
  let hostBest := index.hostBest path host method
  let defaultBest := (index.defaultTrie.longestPrefixWithReason path method index.upstreamMethods).map fun best =>
    (⟨⟨best.1, .default, 0⟩, best.2⟩ : HostLookupResult)
  match hostBest.filter fun best => index.defaultMaxPathLen ≤ best.candidate.route.pathLen with
  | some best => (index.decision best.candidate (best.decisionReason.getD (hostWinsReason defaultBest best))).map some
  | none =>
    match defaultBest, hostBest with
    | some current, none =>
      (index.decision current.candidate (current.decisionReason.getD .defaultPathLonger)).map some
    | none, some hostRoute =>
      (index.decision hostRoute.candidate (hostRoute.decisionReason.getD .hostTrieNoDefault)).map some
    | some current, some candidate =>
      let preference := compareRouteCandidate current.candidate candidate.candidate
      let selected := if preference = .keepCurrent then current.candidate else candidate.candidate
      let reason :=
        if selected = candidate.candidate then candidate.decisionReason.getD (preferenceReason preference)
        else current.decisionReason.getD (preferenceReason preference)
      (index.decision selected reason).map some
    | none, none => some none

end RouteIndex

/-! ## The index and the scan disagree on a host with an empty label -/

/-! ## The suffixes the index looks up -/

/-- the suffixes the wildcard loop looks up, in order: what follows each `.`, up to an empty one -/
def dotSuffixes : List UInt8 → List (List UInt8)
  | [] => []
  | b :: suffix => if b = 46 then (if suffix.isEmpty then [] else suffix :: dotSuffixes suffix) else dotSuffixes suffix

/-- what the trie of one suffix offers to the best result so far -/
def RouteIndex.offerSuffix (index : RouteIndex) (path : List UInt8) (method : Option (List UInt8))
    (best : Option HostLookupResult) (suffix : List UInt8) : Option HostLookupResult :=
  match get suffix index.wildcardHostTries with
  | some trie => preferHostLookupResult best (index.trieResult trie path method .wildcard suffix.length)
  | none => best

/-- the loop offers the tries of the dot suffixes of the host, in order -/
theorem wildcardWalk_eq_foldl (index : RouteIndex) (path : List UInt8) (method : Option (List UInt8))
    (host : List UInt8) (best : Option HostLookupResult) :
    index.wildcardWalk path method host best = (dotSuffixes host).foldl (index.offerSuffix path method) best := by
  induction host generalizing best with
  | nil => rfl
  | cons b suffix ih =>
    unfold RouteIndex.wildcardWalk dotSuffixes
    by_cases hb : b = 46
    · simp only [hb, if_true]
      cases suffix with
      | nil => rfl
      | cons c rest =>
        simp only [List.isEmpty_cons, Bool.false_eq_true, if_false, List.foldl_cons]
        cases hget : get (c :: rest) index.wildcardHostTries <;> simp [RouteIndex.offerSuffix, hget, ih]
    · simp only [hb, if_false, ih]

theorem mem_dotSuffixes (s host : List UInt8) : s ∈ dotSuffixes host ↔ s ≠ [] ∧ ∃ pre, host = pre ++ 46 :: s := by
  induction host with
  | nil => simp [dotSuffixes]
  | cons b rest ih =>
    -- a suffix after a dot of `b :: rest` is `rest` after a leading dot, or one of `rest`
    have hcons : (∃ pre, b :: rest = pre ++ 46 :: s) ↔ (b = 46 ∧ rest = s) ∨ ∃ pre, rest = pre ++ 46 :: s := by
      constructor
      · rintro ⟨pre, hpre⟩
        rcases List.cons_eq_append_iff.1 hpre with ⟨-, h⟩ | ⟨pre', -, h⟩
        · obtain ⟨h1, h2⟩ := List.cons.inj h
          exact Or.inl ⟨h1.symm, h2.symm⟩
        · exact .inr ⟨pre', h⟩
      · rintro (⟨rfl, rfl⟩ | ⟨pre, rfl⟩)
        · exact ⟨[], rfl⟩
        · exact ⟨b :: pre, rfl⟩
    rw [hcons]
    unfold dotSuffixes
    by_cases hb : b = 46
    · subst hb
      cases rest with
      | nil => simp
      | cons c r =>
        simp only [List.isEmpty_cons, Bool.false_eq_true, if_false, if_true, List.mem_cons, ih, true_and]
        constructor
        · rintro (rfl | ⟨hs, h⟩)
          · exact ⟨List.cons_ne_nil c r, .inl rfl⟩
          · exact ⟨hs, .inr h⟩
        · rintro ⟨hs, rfl | h⟩
          · exact .inl rfl
          · exact .inr ⟨hs, h⟩
    · simp [hb, ih]

/-- the index looks a suffix up where the host is a label, a dot and the suffix, as documented, and also where the
host is a dot and the suffix alone -/
theorem mem_dotSuffixes_iff_wildcard (s host : List UInt8) :
    s ∈ dotSuffixes host ↔ s ≠ [] ∧ (WildcardMatches s host ∨ host = 46 :: s) := by
  rw [mem_dotSuffixes]
  constructor
  · rintro ⟨hs, pre, rfl⟩
    refine ⟨hs, ?_⟩
    by_cases hpre : pre = []
    · subst hpre
      exact .inr rfl
    · exact .inl ⟨pre, hpre, rfl⟩
  · rintro ⟨hs, ⟨pre, -, rfl⟩ | rfl⟩
    · exact ⟨hs, pre, rfl⟩
    · exact ⟨hs, [], rfl⟩

/-- one upstream, routed by the host pattern `*.a` alone -/
def wildcardOnly : List (String × RouteMatch) := [("w", ⟨some "*.a", none, none⟩)]

theorem index_routes_empty_label_to_wildcard :
    parseConfiguredHostPattern "*.a" = some (.wildcardSuffix (utf8 "a")) ∧
      normalizeHostForRouting ".a" = some (utf8 ".a") ∧ ¬ WildcardMatches (utf8 "a") (utf8 ".a") ∧
      (RouteIndex.fromUpstreams wildcardOnly).lookupForMethod "/" (some ".a") none = some (some "w") ∧
      ((RouteIndex.fromUpstreams wildcardOnly).lookupWithDecisionForMethod "/" (some ".a") none).map
        (Option.map RouteDecision.upstream) = some (some "w") ∧
      scanLookupForMethod wildcardOnly "/" (some ".a") none = none := by
  decide

/-! ## The scan's answer depends on the map's iteration order -/

/-- two wildcard upstreams matching `a.b.c`: the longer suffix without a method, the shorter one with `GET` -/
def wildcardPair : List (String × RouteMatch) :=
  [("narrow", ⟨some "*.b.c", none, none⟩), ("broad", ⟨some "*.c", none, some "GET"⟩)]

/-- the scan's clauses are not antisymmetric: a longer wildcard suffix beats a method-specific route, and a
method-specific route beats a longer wildcard suffix, so the two iteration orders of the map give two answers. The
index compares method specificity only between equal suffixes and answers `narrow` for both orders. -/
theorem scan_answer_depends_on_map_order :
    scanLookupForMethod wildcardPair "/" (some "a.b.c") (some "GET") = some "broad" ∧
      scanLookupForMethod wildcardPair.reverse "/" (some "a.b.c") (some "GET") = some "narrow" ∧
      (RouteIndex.fromUpstreams wildcardPair).lookupForMethod "/" (some "a.b.c") (some "GET") = some (some "narrow") ∧
      (RouteIndex.fromUpstreams wildcardPair.reverse).lookupForMethod "/" (some "a.b.c") (some "GET") =
        some (some "narrow") := by
  decide

end Spooky.Edge.Routing
