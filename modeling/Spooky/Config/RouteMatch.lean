/-
Route matchers of the configuration, as the validator checks them (`crates/config/src/validator.rs`, with
`normalize_route_host` and `normalized_route_method` of `validator/helpers.rs`) and as the runtime configuration
normalizes them (`RuntimeRouteMatchPolicy::normalize`, `crates/config/src/runtime/policies/mod.rs`, and the duplicate
check of `normalize_upstreams`, `crates/config/src/runtime/upstreams.rs`).

Both layers refuse two upstreams with the same route, through the same loop (`UniqueKeys.insertKeys`) on different
keys. The validator keys a route on its host normalized, its path prefix as written and its method normalized; it
counts a host as present when it is set, even to a blank string. The runtime trims the path prefix and the host
first and drops what is then empty.

Results:
- `validated_routes_normalize`: every route the validator accepts normalizes, and its policy matches every request
  exactly when its host is blank and it has no path prefix.
- `route_validator_disagrees_with_runtime`: the layers part three ways. A blank host with no path passes the
  validator and becomes a catch-all route; two path prefixes that differ in a trailing space pass the validator and
  clash at runtime; and the hosts `""` and `"."` clash in the validator but not at runtime, in every order of the
  upstream map.

The upstream map is a list of `(name, route)` pairs in its iteration order, as in `Spooky.Edge.Routing.Scan`. The
checks of the two loops that read no route (host policy, backends, TLS, protocol policy) are left out. The two
crates each hold a copy of `normalize_route_host` and `normalized_route_method` with the same text; both are modelled
once. Text is a list of characters.
-/
import Spooky.Lib.Text
import Spooky.Lib.Fallible
import Spooky.Lib.UniqueKeys
import Spooky.Edge.Routing.Scan

namespace Spooky.Config

open Text UniqueKeys Spooky.Edge.Routing

/-! ## Normalizations -/

/-- `normalize_route_host`: the trimmed host without brackets, port or trailing dots, in ASCII lower case -/
def normalizeRouteHost (raw : List Char) : List Char :=
  let trimmed := trimChars raw
  let host :=
    match stripPrefix ['['] trimmed with
    | some rest =>
      match find ']' rest with
      | some close => rest.take close
      | none => trimmed
    | none =>
      match rsplitOnce ':' trimmed with
      | some (candidateHost, candidatePort) =>
        if !candidateHost.contains ':' && candidatePort.all Char.isDigit then candidateHost else trimmed
      | none => trimmed
  (trimEndMatches '.' host).map Char.toLower

/-- `normalized_route_method`: the trimmed method in ASCII upper case, or none when blank -/
def normalizedRouteMethod (method : Option String) : Option (List Char) :=
  ((method.map fun value => trimChars value.toList).filter fun value => !value.isEmpty).map
    fun value => value.map Char.toUpper

/-- `normalize_optional_string`: the trimmed value, or none when blank -/
def normalizeOptionalString (value : Option String) : Option (List Char) :=
  (value.map fun value => trimChars value.toList).filter fun value => !value.isEmpty

/-! ## The validator -/

/-- `RouteMatcherKey` of the validator: host, path prefix and method -/
abbrev RouteMatcherKey := Option (List Char) × Option (List Char) × Option (List Char)

/-- the failures of the route checks of `validate`, each with what its `validation_error!` prints -/
inductive RouteValidationError where
  /-- "Upstream '{}' must have either 'host' or 'path_prefix' route matcher" -/
  | missingRouteMatcher (upstream : String)
  /-- "Route path_prefix cannot be empty for upstream '{}'" -/
  | emptyPathPrefix (upstream : String)
  /-- "Route path_prefix must start with '/' for upstream '{}': {}" -/
  | pathPrefixWithoutSlash (upstream path : String)
  /-- "No upstreams configured" -/
  | noUpstreams
  /-- "Ambiguous route matcher detected: upstream '{}' conflicts with upstream '{}' for host={:?} path_prefix={:?}
  method={:?}" -/
  | ambiguousRouteMatcher (upstream existing : String) (key : RouteMatcherKey)
deriving DecidableEq, Repr

/-- the route checks of one upstream in the first loop of `validate` -/
def checkRouteMatcher (upstreamName : String) (route : RouteMatch) : Except RouteValidationError Unit :=
  if route.host.isNone && route.pathPrefix.isNone then .error (.missingRouteMatcher upstreamName)
  else
    match route.pathPrefix with
    | some path =>
      if path.isEmpty then .error (.emptyPathPrefix upstreamName)
      else if path.toList.head? ≠ some '/' then .error (.pathPrefixWithoutSlash upstreamName path)
      else .ok ()
    | none => .ok ()

def routeMatcherKey (route : RouteMatch) : RouteMatcherKey :=
  (route.host.map fun host => normalizeRouteHost host.toList, route.pathPrefix.map String.toList,
    normalizedRouteMethod route.method)

/-- the route checks of `validate`: each upstream's matcher, then that there is an upstream, then that no two
upstreams share a `RouteMatcherKey` -/
def validateUpstreamRoutes (upstreams : List (String × RouteMatch)) : Except RouteValidationError Unit :=
  match upstreams.forM fun upstream => checkRouteMatcher upstream.1 upstream.2 with
  | .error e => .error e
  | .ok () =>
    if upstreams.isEmpty then .error .noUpstreams
    else
      (insertKeys (fun upstream => .ok (routeMatcherKey upstream.2))
        (fun upstream existing key => .ambiguousRouteMatcher upstream.1 existing key) Prod.fst [] upstreams).map
        fun _ => ()

/-! ## The runtime policy -/

inductive RuntimeRouteHostPattern where
  | exact (host : List Char)
  | wildcardSuffix (suffix : List Char)
deriving DecidableEq, Repr

def parseRuntimeRouteHostPattern (raw : List Char) : RuntimeRouteHostPattern :=
  let normalized := normalizeRouteHost raw
  match stripPrefix ['*', '.'] normalized with
  | none => .exact normalized
  | some wildcardSuffix =>
    if wildcardSuffix.isEmpty || wildcardSuffix.contains '*' then .exact normalized
    else .wildcardSuffix wildcardSuffix

structure RuntimeRouteMatchPolicy where
  host : Option (List Char)
  hostPattern : Option RuntimeRouteHostPattern
  pathPrefix : Option (List Char)
  method : Option (List Char)
  pathLen : ℕ
  hostSpecific : Bool
  methodSpecific : Bool
deriving DecidableEq, Repr

/-- the errors of the runtime configuration that the route checks raise -/
inductive RuntimeConfigError where
  | configInvalid (message : String)
  | duplicateRouteAmbiguity (upstream existingUpstream : String) (host pathPrefix method : Option (List Char))
deriving DecidableEq, Repr

namespace RuntimeRouteMatchPolicy

/-- the policy `normalize` builds from the normalized host, path prefix and method; the rest follows from them -/
def ofParts (host pathPrefix method : Option (List Char)) : RuntimeRouteMatchPolicy where
  host := host
  hostPattern := host.map parseRuntimeRouteHostPattern
  pathPrefix := pathPrefix
  method := method
  pathLen := (pathPrefix.map fun value => (encode value).length).getD 0
  hostSpecific := host.isSome
  methodSpecific := method.isSome

def normalize (upstreamName : String) (route : RouteMatch) : Except RuntimeConfigError RuntimeRouteMatchPolicy :=
  let pathPrefix := normalizeOptionalString route.pathPrefix
  let host := (normalizeOptionalString route.host).map normalizeRouteHost
  let method := normalizedRouteMethod route.method
  match pathPrefix with
  | some path =>
    if path.head? ≠ some '/' then
      .error (.configInvalid ("upstream \x27" ++ upstreamName ++ "\x27 has an invalid route.path_prefix \x27" ++
        String.ofList path ++ "\x27"))
    else .ok (ofParts host pathPrefix method)
  | none => .ok (ofParts host pathPrefix method)

end RuntimeRouteMatchPolicy

/-- the route part of `normalize_upstreams`: an upstream is needed, then each route is normalized and inserted into
the map of routes seen, which refuses a policy it already holds -/
def normalizeUpstreamRoutes (upstreams : List (String × RouteMatch)) :
    Except RuntimeConfigError (List (RuntimeRouteMatchPolicy × String)) :=
  if upstreams.isEmpty then .error (.configInvalid "no upstreams configured")
  else
    insertKeys (fun upstream => RuntimeRouteMatchPolicy.normalize upstream.1 upstream.2)
      (fun upstream existing key => .duplicateRouteAmbiguity upstream.1 existing key.host key.pathPrefix key.method)
      Prod.fst [] upstreams

/-! ## What each layer accepts -/

/-- a route passes its checks when it has a host or a path prefix, and its path prefix starts with `/` -/
theorem checkRouteMatcher_eq_ok_iff (upstreamName : String) (route : RouteMatch) :
    checkRouteMatcher upstreamName route = .ok () ↔
      (route.host.isSome ∨ route.pathPrefix.isSome) ∧
        ∀ path, route.pathPrefix = some path → path.toList.head? = some '/' := by
  unfold checkRouteMatcher
  cases hp : route.pathPrefix with
  | none =>
    cases hh : route.host with
    | none => simp
    | some host => simp
  | some path =>
    have hmatcher : (route.host.isNone && (some path).isNone) = false := by simp
    rw [if_neg (by rw [hmatcher]; exact Bool.false_ne_true)]
    -- a path that starts with `/` is not empty
    by_cases hslash : path.toList.head? = some '/'
    · have hne : path.isEmpty = false := by
        rw [String.isEmpty_eq_false_iff, Ne, ← String.toList_eq_nil_iff]
        intro hnil
        rw [hnil] at hslash
        cases hslash
      simp [hne, hslash]
    · by_cases hemp : path = "" <;> simp [hemp, hslash]

/-- a path prefix that starts with `/` keeps its `/` when trimmed -/
theorem normalizeOptionalString_of_slash {path : String} (hslash : path.toList.head? = some '/') :
    normalizeOptionalString (some path) = some (trimChars path.toList) ∧
      (trimChars path.toList).head? = some '/' := by
  obtain ⟨rest, hrest⟩ : ∃ rest, path.toList = '/' :: rest := by
    cases hl : path.toList with
    | nil => rw [hl] at hslash; cases hslash
    | cons c rest =>
      rw [hl] at hslash
      cases hslash
      exact ⟨rest, rfl⟩
  have hhead : (trimChars path.toList).head? = some '/' := by
    rw [hrest]
    exact head?_trimChars (by decide) rest
  refine ⟨?_, hhead⟩
  have hne : (trimChars path.toList).isEmpty = false := by
    cases ht : trimChars path.toList with
    | nil => rw [ht] at hhead; cases hhead
    | cons c cs => rfl
  simp [normalizeOptionalString, hne]

namespace RuntimeRouteMatchPolicy

/-- two policies built by `normalize` are equal exactly when host, path prefix and method are -/
theorem ofParts_inj {host pathPrefix method host' pathPrefix' method' : Option (List Char)} :
    ofParts host pathPrefix method = ofParts host' pathPrefix' method' ↔
      host = host' ∧ pathPrefix = pathPrefix' ∧ method = method' := by
  constructor
  · intro h
    exact ⟨congrArg RuntimeRouteMatchPolicy.host h, congrArg RuntimeRouteMatchPolicy.pathPrefix h,
      congrArg RuntimeRouteMatchPolicy.method h⟩
  · rintro ⟨rfl, rfl, rfl⟩
    rfl

/-- a route the validator accepts normalizes, to the policy of its trimmed parts -/
theorem normalize_of_check {upstreamName : String} {route : RouteMatch}
    (h : checkRouteMatcher upstreamName route = .ok ()) :
    normalize upstreamName route = .ok (ofParts ((normalizeOptionalString route.host).map normalizeRouteHost)
      (normalizeOptionalString route.pathPrefix) (normalizedRouteMethod route.method)) := by
  obtain ⟨-, hslash⟩ := (checkRouteMatcher_eq_ok_iff upstreamName route).1 h
  unfold normalize
  cases hp : route.pathPrefix with
  | none => rfl
  | some path =>
    obtain ⟨hnorm, hhead⟩ := normalizeOptionalString_of_slash (hslash path hp)
    simp only [hnorm, hhead, ne_eq, not_true_eq_false, if_false]

end RuntimeRouteMatchPolicy

/-- the validator accepts exactly the non-empty upstream lists whose routes pass their checks and have pairwise
distinct keys -/
theorem validateUpstreamRoutes_eq_ok_iff (upstreams : List (String × RouteMatch)) :
    validateUpstreamRoutes upstreams = .ok () ↔
      (∀ upstream ∈ upstreams, checkRouteMatcher upstream.1 upstream.2 = .ok ()) ∧ upstreams ≠ [] ∧
        (upstreams.map fun upstream => routeMatcherKey upstream.2).Nodup := by
  unfold validateUpstreamRoutes
  rw [← Fallible.forM_eq_ok_iff]
  cases hchecks : upstreams.forM fun upstream => checkRouteMatcher upstream.1 upstream.2 with
  | error e => simp
  | ok u =>
    simp only [true_and]
    cases upstreams with
    | nil => simp
    | cons first rest =>
      have hkeys : (∃ r, insertKeys (fun upstream : String × RouteMatch => .ok (routeMatcherKey upstream.2))
          (fun upstream existing key => RouteValidationError.ambiguousRouteMatcher upstream.1 existing key)
          Prod.fst [] (first :: rest) = .ok r) ↔ _ :=
        insertKeys_ok_iff (fun _ _ => rfl) []
      simp only [List.map_nil, List.not_mem_nil, not_false_eq_true, implies_true, and_true] at hkeys
      simp only [List.isEmpty_cons, Bool.false_eq_true, if_false, ne_eq, reduceCtorEq, not_false_eq_true, true_and]
      rw [Fallible.map_unit_eq_ok_iff, hkeys]

/-- the validator refuses a list whose routes pass their checks when two of them share a key -/
theorem validateUpstreamRoutes_ambiguous {upstreams : List (String × RouteMatch)}
    (hchecks : ∀ upstream ∈ upstreams, checkRouteMatcher upstream.1 upstream.2 = .ok ()) (hne : upstreams ≠ [])
    (hdup : ¬(upstreams.map fun upstream => routeMatcherKey upstream.2).Nodup) :
    ∃ upstream existing key, validateUpstreamRoutes upstreams = .error (.ambiguousRouteMatcher upstream existing key) := by
  obtain ⟨upstream, -, existing, hclash⟩ :=
    @insertKeys_clash _ _ _ _ _ (fun upstream : String × RouteMatch => .ok (routeMatcherKey upstream.2))
      (fun upstream existing key => RouteValidationError.ambiguousRouteMatcher upstream.1 existing key) Prod.fst _ _
      (fun _ _ => rfl) [] (by simpa using hdup)
  refine ⟨upstream.1, existing, routeMatcherKey upstream.2, ?_⟩
  unfold validateUpstreamRoutes
  rw [(Fallible.forM_eq_ok_iff upstreams).2 hchecks]
  simp only [List.isEmpty_eq_false_iff.2 hne, Bool.false_eq_true, if_false, hclash]
  rfl

section Runtime

variable {upstreams : List (String × RouteMatch)} {f : String × RouteMatch → RuntimeRouteMatchPolicy}

/-- with every route normalized, the runtime accepts exactly the non-empty lists of pairwise distinct policies -/
theorem normalizeUpstreamRoutes_ok_iff
    (hnorm : ∀ upstream ∈ upstreams, RuntimeRouteMatchPolicy.normalize upstream.1 upstream.2 = .ok (f upstream)) :
    (∃ routes, normalizeUpstreamRoutes upstreams = .ok routes) ↔ upstreams ≠ [] ∧ (upstreams.map f).Nodup := by
  unfold normalizeUpstreamRoutes
  cases upstreams with
  | nil => simp
  | cons first rest =>
    simp only [List.isEmpty_cons, Bool.false_eq_true, if_false, ne_eq, reduceCtorEq, not_false_eq_true, true_and]
    rw [insertKeys_ok_iff hnorm []]
    simp

/-- with every route normalized and two policies equal, the runtime fails with `DuplicateRouteAmbiguity` -/
theorem normalizeUpstreamRoutes_duplicate
    (hnorm : ∀ upstream ∈ upstreams, RuntimeRouteMatchPolicy.normalize upstream.1 upstream.2 = .ok (f upstream))
    (hne : upstreams ≠ []) (hdup : ¬(upstreams.map f).Nodup) :
    ∃ upstream existing host pathPrefix method, normalizeUpstreamRoutes upstreams =
      .error (.duplicateRouteAmbiguity upstream existing host pathPrefix method) := by
  obtain ⟨upstream, -, existing, hclash⟩ := @insertKeys_clash _ _ _ _ _ _
    (fun upstream existing (key : RuntimeRouteMatchPolicy) =>
      RuntimeConfigError.duplicateRouteAmbiguity upstream.1 existing key.host key.pathPrefix key.method)
    Prod.fst _ _ hnorm [] (by simpa using hdup)
  refine ⟨upstream.1, existing, (f upstream).host, (f upstream).pathPrefix, (f upstream).method, ?_⟩
  unfold normalizeUpstreamRoutes
  rw [if_neg (by simpa using hne)]
  exact hclash

end Runtime

theorem normalizeOptionalString_eq_none_iff (value : Option String) :
    normalizeOptionalString value = none ↔ ∀ s, value = some s → trimChars s.toList = [] := by
  cases value with
  | none => simp [normalizeOptionalString]
  | some s => simp [normalizeOptionalString, Option.filter_some]

/-! ## The two layers compared -/

/-- every route the validator accepts normalizes, and its policy has neither host nor path prefix, so that it
matches every request, exactly when its host is blank and it has no path prefix -/
theorem validated_routes_normalize {upstreams : List (String × RouteMatch)}
    (h : validateUpstreamRoutes upstreams = .ok ()) :
    ∀ upstream ∈ upstreams, ∃ policy, RuntimeRouteMatchPolicy.normalize upstream.1 upstream.2 = .ok policy ∧
      (policy.host = none ∧ policy.pathPrefix = none ↔
        upstream.2.pathPrefix = none ∧ ∃ host, upstream.2.host = some host ∧ trimChars host.toList = []) := by
  intro upstream hmem
  have hcheck := ((validateUpstreamRoutes_eq_ok_iff upstreams).1 h).1 upstream hmem
  refine ⟨_, RuntimeRouteMatchPolicy.normalize_of_check hcheck, ?_⟩
  obtain ⟨hmatcher, hslash⟩ := (checkRouteMatcher_eq_ok_iff _ _).1 hcheck
  -- a validated path prefix survives the trim, so only a blank host can vanish
  have hpath : normalizeOptionalString upstream.2.pathPrefix = none ↔ upstream.2.pathPrefix = none := by
    cases hp : upstream.2.pathPrefix with
    | none => simp [normalizeOptionalString]
    | some path => simp [(normalizeOptionalString_of_slash (hslash path hp)).1]
  simp only [RuntimeRouteMatchPolicy.ofParts, Option.map_eq_none_iff, hpath,
    normalizeOptionalString_eq_none_iff]
  constructor
  · rintro ⟨hhost, hnone⟩
    refine ⟨hnone, ?_⟩
    cases hh : upstream.2.host with
    | none => simp [hh, hnone] at hmatcher
    | some host => exact ⟨host, rfl, hhost host hh⟩
  · rintro ⟨hnone, host, hh, hblank⟩
    refine ⟨fun s hs => ?_, hnone⟩
    rw [hh, Option.some.injEq] at hs
    rw [← hs]
    exact hblank

/-- two upstreams, one routed by path prefix and one by host and method -/
def apiUpstreams : List (String × RouteMatch) :=
  [("api", ⟨none, some "/api", none⟩), ("web", ⟨some "Example.com", none, some "get"⟩)]

/-- the validator accepts `apiUpstreams`, and its host route normalizes -/
theorem api_upstreams_normalize :
    validateUpstreamRoutes apiUpstreams = .ok () ∧
      ∃ policy, RuntimeRouteMatchPolicy.normalize "web" ⟨some "Example.com", none, some "get"⟩ = .ok policy ∧
        (policy.host = none ∧ policy.pathPrefix = none ↔
          (none : Option String) = none ∧ ∃ host, some "Example.com" = some host ∧ trimChars host.toList = []) :=
  ⟨rfl, validated_routes_normalize (rfl : validateUpstreamRoutes apiUpstreams = .ok ())
    ("web", ⟨some "Example.com", none, some "get"⟩) (List.mem_cons_of_mem _ List.mem_cons_self)⟩

/-- a two-upstream map in either order -/
theorem pair_of_perm {upstreams : List (String × RouteMatch)} {first second : String × RouteMatch}
    (hperm : upstreams.Perm [first, second]) :
    (∀ upstream ∈ upstreams, upstream = first ∨ upstream = second) ∧ upstreams ≠ [] := by
  refine ⟨fun upstream hmem => ?_, fun hnil => ?_⟩
  · simpa using hperm.subset hmem
  · rw [hnil] at hperm
    exact List.cons_ne_nil _ _ (List.nil_perm.1 hperm)

/-- the keys of a two-upstream map in either order are distinct exactly when the two keys are -/
theorem nodup_pair_of_perm {β : Type} {upstreams : List (String × RouteMatch)} {first second : String × RouteMatch}
    (hperm : upstreams.Perm [first, second]) (g : String × RouteMatch → β) :
    (upstreams.map g).Nodup ↔ g first ≠ g second := by
  rw [(hperm.map g).nodup_iff]
  simp

/-- the validator and the runtime part three ways: a blank host with no path prefix passes the validator and
normalizes to a policy with neither; two path prefixes that differ in a trailing space pass the validator and clash
at runtime; the hosts `""` and `"."` clash in the validator and not at runtime -/
theorem route_validator_disagrees_with_runtime :
    (∀ (name host : String) (method : Option String), trimChars host.toList = [] →
      validateUpstreamRoutes [(name, ⟨some host, none, method⟩)] = .ok () ∧
      ∃ policy, RuntimeRouteMatchPolicy.normalize name ⟨some host, none, method⟩ = .ok policy ∧
        policy.host = none ∧ policy.pathPrefix = none) ∧
    (∀ (name name' path : String) (method : Option String), path.toList.head? = some '/' →
      ∀ upstreams : List (String × RouteMatch),
        upstreams.Perm [(name, ⟨none, some path, method⟩), (name', ⟨none, some (path ++ " "), method⟩)] →
        validateUpstreamRoutes upstreams = .ok () ∧
        ∃ upstream existing host pathPrefix method', normalizeUpstreamRoutes upstreams =
          .error (.duplicateRouteAmbiguity upstream existing host pathPrefix method')) ∧
    (∀ (name name' path : String) (method : Option String), path.toList.head? = some '/' →
      ∀ upstreams : List (String × RouteMatch),
        upstreams.Perm [(name, ⟨some "", some path, method⟩), (name', ⟨some ".", some path, method⟩)] →
        (∃ upstream existing key,
          validateUpstreamRoutes upstreams = .error (.ambiguousRouteMatcher upstream existing key)) ∧
        ∃ routes, normalizeUpstreamRoutes upstreams = .ok routes) := by
  refine ⟨?_, ?_, ?_⟩
  · intro name host method hblank
    have hcheck : checkRouteMatcher name ⟨some host, none, method⟩ = .ok () := by
      rw [checkRouteMatcher_eq_ok_iff]
      simp
    refine ⟨(validateUpstreamRoutes_eq_ok_iff _).2 ⟨by simpa using hcheck, by simp, by simp⟩, _,
      RuntimeRouteMatchPolicy.normalize_of_check hcheck, ?_, rfl⟩
    simp [RuntimeRouteMatchPolicy.ofParts, normalizeOptionalString, Option.filter_some, hblank]
  · intro name name' path method hslash upstreams hperm
    -- the padded prefix still starts with `/`, and trims to the same prefix
    have hslash' : (path ++ " ").toList.head? = some '/' := by
      rw [String.toList_append, List.head?_append, hslash]
      rfl
    have htrim : normalizeOptionalString (some (path ++ " ")) = normalizeOptionalString (some path) := by
      simp only [normalizeOptionalString, Option.map_some, String.toList_append]
      rw [show " ".toList = [' '] from rfl, trimChars_append_of_isWhitespace (by decide)]
    obtain ⟨hpair, hne⟩ := pair_of_perm hperm
    have hchecks : ∀ upstream ∈ upstreams, checkRouteMatcher upstream.1 upstream.2 = .ok () := by
      intro upstream hmem
      rcases hpair upstream hmem with rfl | rfl
      · exact (checkRouteMatcher_eq_ok_iff _ _).2 ⟨by simp, by simpa using hslash⟩
      · exact (checkRouteMatcher_eq_ok_iff _ _).2 ⟨by simp, by simpa using hslash'⟩
    refine ⟨(validateUpstreamRoutes_eq_ok_iff upstreams).2 ⟨hchecks, hne, ?_⟩, ?_⟩
    · rw [nodup_pair_of_perm hperm]
      intro hkey
      have hlen := congrArg (fun key : RouteMatcherKey => (key.2.1.map List.length).getD 0) hkey
      simp [routeMatcherKey] at hlen
    · apply normalizeUpstreamRoutes_duplicate (fun upstream hmem =>
        RuntimeRouteMatchPolicy.normalize_of_check (hchecks upstream hmem)) hne
      rw [nodup_pair_of_perm hperm]
      simp [htrim]
  · intro name name' path method hslash upstreams hperm
    obtain ⟨hpair, hne⟩ := pair_of_perm hperm
    have hchecks : ∀ upstream ∈ upstreams, checkRouteMatcher upstream.1 upstream.2 = .ok () := by
      intro upstream hmem
      rcases hpair upstream hmem with rfl | rfl <;>
        exact (checkRouteMatcher_eq_ok_iff _ _).2 ⟨by simp, by simpa using hslash⟩
    refine ⟨validateUpstreamRoutes_ambiguous hchecks hne ?_, ?_⟩
    · -- both hosts normalize to the empty host
      rw [nodup_pair_of_perm hperm]
      simp only [routeMatcherKey, ne_eq, Prod.mk.injEq, Option.map_some, Option.some.injEq, and_true, not_not]
      decide
    · -- the runtime drops the blank host and keeps `"."` as the empty host
      rw [normalizeUpstreamRoutes_ok_iff (fun upstream hmem =>
        RuntimeRouteMatchPolicy.normalize_of_check (hchecks upstream hmem)), nodup_pair_of_perm hperm]
      refine ⟨hne, ?_⟩
      rw [Ne, RuntimeRouteMatchPolicy.ofParts_inj]
      simp only [normalizeOptionalString, Option.map_some, and_true]
      decide

end Spooky.Config
