/-
The refresh of hostname backends' addresses (`crates/edge/src/quic_listener/backend_resolution.rs`): the resolution
store (`crates/edge/src/runtime/backend/store.rs`), the transport's shared DNS cache (`SharedDnsResolver` in
`crates/transport/src/h2_client.rs`) and the rotation of backend clients (`rotate_backend_client` in
`crates/transport/src/transport_pool.rs`, `h1_pool.rs` and `h2_pool.rs`), tied together by
`apply_backend_dns_refresh` (`crates/edge/src/runtime/backend/lifecycle.rs`).

At startup the store is seeded with every backend of the configuration, a hostname backend with no address, and the
DNS cache is empty. On every tick the refresh task takes a snapshot of the store's hostname backends and refreshes each
in turn: `lookup_host` answers IP addresses or fails. A non-empty answer replaces the backend's addresses in the store
(sorted, without repeats), stamps the time and bumps the refresh generation; the same IPs with port 0 replace the DNS
cache's entry of the backend's host (trimmed, without trailing dots, lowercased), which is what the transport's
connector resolves the host to; and if the addresses changed, the backend's client is rotated. An empty answer and a
failed lookup change nothing.

What the world answers a refresh (the lookup, the clock reading and whether a new HTTP/2 client builds) is an input
of each refresh. IP addresses are any linearly ordered type, and a socket address is an IP address and a port,
ordered as the standard library orders them (IPv6 flow information and scope ids are left out). `HashMap`s are
association lists in their iteration order; the locks are never poisoned, as runs are sequential. The transport
pool's backend entries carry the HTTP/2 client generation that `H2Pool` keeps per backend. Metrics and logs are left
out.

Results:
- `canonicalize` (`Canonical`) is `canonicalize_socket_addrs`, in the store and in the cache alike.
- `DnsRefreshWorld.applyBackendDnsRefresh_cases`: a refresh either changes nothing or is a refresh the store took,
  which writes the backend's new resolution, its host's cache entry and, when the addresses changed, its client.
- `Tracks.refreshBackendHostname_other`, `Tracks.refreshBackendHostname_self`: a refresh of another backend whose host
  is cached elsewhere keeps a backend's view (its store entry, its host's cache entry, its client); its own refresh
  acts on the view as `BackendView.refresh`.
- `Tracks.refreshRun`: over any run, a hostname backend whose host no other hostname backend shares evolves as its
  own view under its own inputs, one per tick (premises: the store is keyed by address, the host is unshared).
- `dnsCache_agrees_with_store`: from startup, over any run of refresh ticks and any answers, such a backend's
  addresses are the canonical form of its last non-empty answer (none before the first), its refresh generation
  counts the non-empty answers, and the transport's connector resolves any name that normalises like its host to
  exactly those addresses with port 0, falling back to the system resolver only while it has none.
-/
import Spooky.Lib.Ordered
import Spooky.Lib.Counters
import Spooky.Lib.KeyedList
import Spooky.Lib.Text

namespace Spooky.Edge

open Canonical Counters KeyedList Text

/-! ## Addresses -/

/-- `SocketAddr`: an IP address and a port, ordered by address and then by port -/
def SocketAddr (ι : Type) : Type := ι ×ₗ ℕ

instance {ι : Type} [LinearOrder ι] : LinearOrder (SocketAddr ι) := inferInstanceAs (LinearOrder (ι ×ₗ ℕ))

namespace SocketAddr

variable {ι : Type}

/-- `SocketAddr::new` -/
def new (ip : ι) (port : ℕ) : SocketAddr ι := toLex (ip, port)

/-- `SocketAddr::ip` -/
def ip (addr : SocketAddr ι) : ι := (ofLex addr).1

@[simp] theorem ip_new (ip : ι) (port : ℕ) : (new ip port).ip = ip := rfl

end SocketAddr

/-! ## The resolution store -/

/-- `RuntimeBackendAddressKind` -/
inductive RuntimeBackendAddressKind where
  | hostname
  | ipLiteral
deriving DecidableEq, Repr

/-- `BackendResolutionState`; a `SystemTime` is a clock reading -/
structure BackendResolutionState (ι : Type) where
  authorityHost : String
  authorityPort : ℕ
  addressKind : RuntimeBackendAddressKind
  resolvedAddrs : List (SocketAddr ι)
  lastRefreshSuccessAt : Option ℕ
  refreshGeneration : ℕ

/-- `RuntimeBackendResolution`, a backend as the configuration seeds the store with it -/
structure RuntimeBackendResolution (ι : Type) where
  backendAddr : String
  authorityHost : String
  authorityPort : ℕ
  addressKind : RuntimeBackendAddressKind
  resolvedAddrs : List (SocketAddr ι)
  lastRefreshSuccessAt : Option ℕ
  refreshGeneration : ℕ

/-- `RuntimeBackendLifecycleState`: the identity (`identity.backend_addr`) and the resolution; the health and the
membership, which a refresh neither reads nor writes, are left out -/
structure RuntimeBackendLifecycleState (ι : Type) where
  backendAddr : String
  resolution : BackendResolutionState ι

/-- `RuntimeBackendResolutionStore`: the lifecycle states by backend address -/
structure RuntimeBackendResolutionStore (ι : Type) where
  entries : List (String × RuntimeBackendLifecycleState ι)

/-- `BackendRefreshOutcome` -/
inductive BackendRefreshOutcome (ι : Type) where
  | updated (previousAddrs currentAddrs : List (SocketAddr ι)) (refreshedAt : Option ℕ) (refreshGeneration : ℕ)
  | unchanged (currentAddrs : List (SocketAddr ι)) (refreshedAt : Option ℕ) (refreshGeneration : ℕ)
  | emptyAnswerRetained (retainedAddrs : List (SocketAddr ι))
  | lookupFailed (retainedAddrs : List (SocketAddr ι)) (error : String)

/-- `BackendRefreshResult` -/
structure BackendRefreshResult (ι : Type) where
  backendAddr : String
  outcome : BackendRefreshOutcome ι

/-- `BackendLifecycleMutation::ResolutionUpdated`, the one mutation a refresh makes; the health, membership,
snapshot and no-op mutations are left out -/
inductive BackendLifecycleMutation (ι : Type) where
  | resolutionUpdated (backendAddr : String) (state : BackendResolutionState ι) (result : BackendRefreshResult ι)

variable {ι : Type}

namespace RuntimeBackendResolution

/-- `RuntimeBackendResolution::hostname` -/
def hostname (backendAddr authorityHost : String) (authorityPort : ℕ) : RuntimeBackendResolution ι :=
  ⟨backendAddr, authorityHost, authorityPort, .hostname, [], none, 0⟩

/-- `RuntimeBackendResolution::ip_literal` -/
def ipLiteral (backendAddr authorityHost : String) (authorityPort : ℕ) (resolvedAddrs : List (SocketAddr ι)) :
    RuntimeBackendResolution ι :=
  ⟨backendAddr, authorityHost, authorityPort, .ipLiteral, resolvedAddrs, none, 0⟩

def isHostname (r : RuntimeBackendResolution ι) : Bool := r.addressKind == .hostname

/-- `resolution_state` -/
def resolutionState (r : RuntimeBackendResolution ι) : BackendResolutionState ι :=
  ⟨r.authorityHost, r.authorityPort, r.addressKind, r.resolvedAddrs, r.lastRefreshSuccessAt, r.refreshGeneration⟩

end RuntimeBackendResolution

def BackendResolutionState.isHostname (s : BackendResolutionState ι) : Bool := s.addressKind == .hostname

/-- the resolution after a refresh that answered `resolvedAddrs` at `refreshedAt` -/
def BackendResolutionState.refreshed (s : BackendResolutionState ι) (resolvedAddrs : List (SocketAddr ι))
    (refreshedAt : ℕ) : BackendResolutionState ι :=
  { s with
    resolvedAddrs := resolvedAddrs
    lastRefreshSuccessAt := some refreshedAt
    refreshGeneration := min (s.refreshGeneration + 1) u64Max }

@[simp] theorem BackendResolutionState.authorityHost_refreshed (s : BackendResolutionState ι)
    (resolvedAddrs : List (SocketAddr ι)) (refreshedAt : ℕ) :
    (s.refreshed resolvedAddrs refreshedAt).authorityHost = s.authorityHost := rfl

@[simp] theorem BackendResolutionState.authorityPort_refreshed (s : BackendResolutionState ι)
    (resolvedAddrs : List (SocketAddr ι)) (refreshedAt : ℕ) :
    (s.refreshed resolvedAddrs refreshedAt).authorityPort = s.authorityPort := rfl

@[simp] theorem BackendResolutionState.isHostname_refreshed (s : BackendResolutionState ι)
    (resolvedAddrs : List (SocketAddr ι)) (refreshedAt : ℕ) :
    (s.refreshed resolvedAddrs refreshedAt).isHostname = s.isHostname := rfl

/-- `RuntimeBackendLifecycleState::from_resolution_seed` -/
def RuntimeBackendLifecycleState.fromResolutionSeed (r : RuntimeBackendResolution ι) :
    RuntimeBackendLifecycleState ι :=
  ⟨r.backendAddr, r.resolutionState⟩

variable [LinearOrder ι]

/-- the outcome `apply_resolution_refresh` reports: `Updated` when the addresses changed -/
def refreshOutcome (previousAddrs : List (SocketAddr ι)) (resolution : BackendResolutionState ι) :
    BackendRefreshOutcome ι :=
  if previousAddrs ≠ resolution.resolvedAddrs then
    .updated previousAddrs resolution.resolvedAddrs resolution.lastRefreshSuccessAt resolution.refreshGeneration
  else .unchanged resolution.resolvedAddrs resolution.lastRefreshSuccessAt resolution.refreshGeneration

namespace RuntimeBackendResolutionStore

/-- `RuntimeBackendResolutionStore::new`; a later entry of an address replaces an earlier one, as `collect` into a
`HashMap` does -/
def new (entries : List (RuntimeBackendResolution ι)) : RuntimeBackendResolutionStore ι :=
  ⟨entries.foldl (fun m entry =>
    let state := RuntimeBackendLifecycleState.fromResolutionSeed entry
    upsert state.backendAddr state m) []⟩

/-- `backend` -/
def backend (store : RuntimeBackendResolutionStore ι) (backendAddr : String) :
    Option (RuntimeBackendLifecycleState ι) :=
  get backendAddr store.entries

/-- `hostname_backends` -/
def hostnameBackends (store : RuntimeBackendResolutionStore ι) : List (RuntimeBackendLifecycleState ι) :=
  (store.entries.map Prod.snd).filter (·.resolution.isHostname)

/-- `apply_resolution_refresh` -/
def applyResolutionRefresh (store : RuntimeBackendResolutionStore ι) (backendAddr : String)
    (resolvedAddrs : List (SocketAddr ι)) (refreshedAt : ℕ) :
    Option (BackendLifecycleMutation ι) × RuntimeBackendResolutionStore ι :=
  let resolvedAddrs := canonicalize resolvedAddrs
  match get backendAddr store.entries with
  | none => (none, store)
  | some entry =>
    if !entry.resolution.isHostname then (none, store)
    else
      let resolution := entry.resolution.refreshed resolvedAddrs refreshedAt
      (some (.resolutionUpdated entry.backendAddr resolution
          ⟨entry.backendAddr, refreshOutcome entry.resolution.resolvedAddrs resolution⟩),
        ⟨set backendAddr { entry with resolution := resolution } store.entries⟩)

end RuntimeBackendResolutionStore

/-! ## The transport's DNS cache -/

/-- `SharedDnsResolver`: the cache by normalised host; the system resolver it falls back to is an input of `resolve` -/
structure SharedDnsResolver (ι : Type) where
  cache : List (List Char × List (SocketAddr ι))

/-- `DnsCacheUpdate` -/
structure DnsCacheUpdate (ι : Type) where
  host : List Char
  previousAddrs : List (SocketAddr ι)
  currentAddrs : List (SocketAddr ι)

/-- `normalize_dns_cache_host` -/
def normalizeDnsCacheHost (host : String) : List Char :=
  (trimEndMatches '.' (trimChars host.toList)).map Char.toLower

namespace SharedDnsResolver

/-- `SharedDnsResolver::new` -/
def new : SharedDnsResolver ι := ⟨[]⟩

/-- `replace_host_addrs`: an empty list removes the host's entry -/
def replaceHostAddrs (r : SharedDnsResolver ι) (host : String) (addrs : List (SocketAddr ι)) :
    DnsCacheUpdate ι × SharedDnsResolver ι :=
  let normalized := normalizeDnsCacheHost host
  let addrs := canonicalize addrs
  if addrs.isEmpty then
    (⟨normalized, (get normalized r.cache).getD [], addrs⟩, ⟨erase normalized r.cache⟩)
  else
    (⟨normalized, (get normalized r.cache).getD [], addrs⟩, ⟨upsert normalized addrs r.cache⟩)

/-- `set_host_addrs` -/
def setHostAddrs (r : SharedDnsResolver ι) (host : String) (addrs : List (SocketAddr ι)) : SharedDnsResolver ι :=
  (r.replaceHostAddrs host addrs).2

/-- `cached_addrs` -/
def cachedAddrs (r : SharedDnsResolver ι) (host : String) : Option (List (SocketAddr ι)) :=
  get (normalizeDnsCacheHost host) r.cache

/-- the resolver's `call`: the cached addresses of the name, or what the system resolver answers (`fallback`) -/
def resolve (r : SharedDnsResolver ι) (name : String) (fallback : Except String (List (SocketAddr ι))) :
    Except String (List (SocketAddr ι)) :=
  match r.cachedAddrs name with
  | some addrs => .ok addrs
  | none => fallback

end SharedDnsResolver

/-! ## Client rotation -/

/-- `BackendTransportEntry`, with the generation of an HTTP/2 backend's client (`BackendClientState.generation`) -/
inductive BackendTransportEntry where
  | http1
  | h2 (generation : ℕ)
deriving DecidableEq, Repr

/-- `BackendClientRotationState` -/
inductive BackendClientRotationState where
  | missingBackend
  | recreated
  | rotated (previousGeneration currentGeneration : ℕ)
deriving DecidableEq, Repr

/-- `BackendClientRotation::changed`, which `TransportClientRotation::rotated` answers -/
def BackendClientRotationState.changed : BackendClientRotationState → Bool
  | .missingBackend => false
  | _ => true

/-- `UpstreamTransportPool`: the backends' transport entries -/
structure UpstreamTransportPool where
  backendEntries : List (String × BackendTransportEntry)

namespace UpstreamTransportPool

/-- `rotate_backend_client`: an HTTP/1 backend gets a new client; an HTTP/2 backend gets one a generation up if it
builds (`build` is what `H2Client::new_with_observer` answers: it fails on a TLS configuration it cannot load) -/
def rotateBackendClient (pool : UpstreamTransportPool) (backend : String) (build : Except String Unit) :
    Except String BackendClientRotationState × UpstreamTransportPool :=
  match get backend pool.backendEntries with
  | some .http1 => (.ok .recreated, pool)
  | some (.h2 generation) =>
    match build with
    | .error e => (.error e, pool)
    | .ok () =>
      let current := min (generation + 1) u64Max
      (.ok (.rotated generation current), ⟨set backend (.h2 current) pool.backendEntries⟩)
  | none => (.ok .missingBackend, pool)

/-- the rotation `apply_backend_dns_refresh` makes: only on an `Updated` outcome, and counted as rotated when the
transport reports a changed client -/
def rotateOnUpdate (pool : UpstreamTransportPool) (outcome : BackendRefreshOutcome ι) (backendAddr : String)
    (build : Except String Unit) : Bool × UpstreamTransportPool :=
  match outcome with
  | .updated .. =>
    let rotation := pool.rotateBackendClient backendAddr build
    (match rotation.1 with
      | .ok rotation => rotation.changed
      | .error _ => false, rotation.2)
  | _ => (false, pool)

end UpstreamTransportPool

/-! ## One refresh -/

/-- `BackendDnsRefreshApplication` -/
inductive BackendDnsRefreshApplication (ι : Type) where
  | updated (backendAddr authorityHost : String) (previousAddrs currentAddrs : List (SocketAddr ι))
      (generation refreshedAt : ℕ) (clientRotated : Bool)
  | unchanged (backendAddr authorityHost : String) (currentAddrs : List (SocketAddr ι)) (generation refreshedAt : ℕ)
  | emptyAnswerRetained (backendAddr authorityHost : String) (retainedAddrs : List (SocketAddr ι))
  | lookupFailed (backendAddr authorityHost : String) (retainedAddrs : List (SocketAddr ι)) (error : String)

/-- the report of a refresh the store took; `refreshed_at.unwrap_or_else(SystemTime::now)` reads the clock again only
when the store gave no time, which it always gives -/
def BackendRefreshResult.application (result : BackendRefreshResult ι) (authorityHost : String) (now : ℕ)
    (clientRotated : Bool) : BackendDnsRefreshApplication ι :=
  match result.outcome with
  | .updated previousAddrs currentAddrs refreshedAt refreshGeneration =>
    .updated result.backendAddr authorityHost previousAddrs currentAddrs refreshGeneration (refreshedAt.getD now)
      clientRotated
  | .unchanged currentAddrs refreshedAt refreshGeneration =>
    .unchanged result.backendAddr authorityHost currentAddrs refreshGeneration (refreshedAt.getD now)
  | .emptyAnswerRetained retainedAddrs => .emptyAnswerRetained result.backendAddr authorityHost retainedAddrs
  | .lookupFailed retainedAddrs error => .lookupFailed result.backendAddr authorityHost retainedAddrs error

/-- what a refresh writes: the resolution store, the DNS cache and the transport's clients -/
structure DnsRefreshWorld (ι : Type) where
  store : RuntimeBackendResolutionStore ι
  resolver : SharedDnsResolver ι
  transport : UpstreamTransportPool

/-- the world at startup: the store seeded from the configuration, an empty DNS cache, and the transport's clients -/
def DnsRefreshWorld.startup (seeds : List (RuntimeBackendResolution ι)) (transport : UpstreamTransportPool) :
    DnsRefreshWorld ι :=
  ⟨.new seeds, .new, transport⟩

/-- what the world answers one refresh: the lookup, the clock reading, and whether a new HTTP/2 client builds -/
structure RefreshInput (ι : Type) where
  lookup : Except String (List ι)
  now : ℕ
  build : Except String Unit

namespace DnsRefreshWorld

/-- `apply_backend_dns_refresh` -/
def applyBackendDnsRefresh (w : DnsRefreshWorld ι) (backend : RuntimeBackendLifecycleState ι)
    (resolvedAddrs : Except String (List (SocketAddr ι))) (now : ℕ) (build : Except String Unit) :
    BackendDnsRefreshApplication ι × DnsRefreshWorld ι :=
  match resolvedAddrs with
  | .error error =>
    (.lookupFailed backend.backendAddr backend.resolution.authorityHost backend.resolution.resolvedAddrs error, w)
  | .ok resolved =>
    if resolved.isEmpty then
      (.emptyAnswerRetained backend.backendAddr backend.resolution.authorityHost backend.resolution.resolvedAddrs, w)
    else
      match w.store.applyResolutionRefresh backend.backendAddr resolved now with
      | (none, store) =>
        (.lookupFailed backend.backendAddr backend.resolution.authorityHost backend.resolution.resolvedAddrs
          "hostname backend disappeared from resolution store", { w with store := store })
      | (some (.resolutionUpdated _ _ result), store) =>
        let resolver := w.resolver.setHostAddrs backend.resolution.authorityHost
          (resolved.map fun addr => SocketAddr.new addr.ip 0)
        let rotation := w.transport.rotateOnUpdate result.outcome result.backendAddr build
        (result.application backend.resolution.authorityHost now rotation.1, ⟨store, resolver, rotation.2⟩)

/-- `refresh_backend_hostname`: the lookup of the host, each IP with the backend's port -/
def refreshBackendHostname (w : DnsRefreshWorld ι) (backend : RuntimeBackendLifecycleState ι) (i : RefreshInput ι) :
    BackendDnsRefreshApplication ι × DnsRefreshWorld ι :=
  w.applyBackendDnsRefresh backend
    (i.lookup.map fun ips => ips.map fun ip => SocketAddr.new ip backend.resolution.authorityPort) i.now i.build

/-- one tick of the task `spawn_backend_dns_refresh` starts: every hostname backend of a snapshot of the store, in the
store's order, with what the world answers it -/
def refreshTick (w : DnsRefreshWorld ι) (input : String → RefreshInput ι) : DnsRefreshWorld ι :=
  w.store.hostnameBackends.foldl (fun w backend => (w.refreshBackendHostname backend (input backend.backendAddr)).2) w

/-- the world after the ticks `ticks` -/
def refreshRun (w : DnsRefreshWorld ι) (ticks : List (String → RefreshInput ι)) : DnsRefreshWorld ι :=
  ticks.foldl refreshTick w

end DnsRefreshWorld

/-! ## Spec lemmas -/

/-- a refresh of a hostname backend the store holds -/
theorem RuntimeBackendResolutionStore.applyResolutionRefresh_of_get {store : RuntimeBackendResolutionStore ι}
    {backendAddr : String} {entry : RuntimeBackendLifecycleState ι} (hget : get backendAddr store.entries = some entry)
    (hhost : entry.resolution.isHostname = true) (resolvedAddrs : List (SocketAddr ι)) (refreshedAt : ℕ) :
    store.applyResolutionRefresh backendAddr resolvedAddrs refreshedAt =
      (some (.resolutionUpdated entry.backendAddr (entry.resolution.refreshed (canonicalize resolvedAddrs) refreshedAt)
          ⟨entry.backendAddr, refreshOutcome entry.resolution.resolvedAddrs
            (entry.resolution.refreshed (canonicalize resolvedAddrs) refreshedAt)⟩),
        ⟨set backendAddr { entry with resolution := entry.resolution.refreshed (canonicalize resolvedAddrs) refreshedAt }
          store.entries⟩) := by
  simp [RuntimeBackendResolutionStore.applyResolutionRefresh, hget, hhost]

/-- a refresh the store refuses leaves it as it was -/
theorem RuntimeBackendResolutionStore.applyResolutionRefresh_eq_none {store : RuntimeBackendResolutionStore ι}
    {backendAddr : String} (h : ∀ entry, get backendAddr store.entries = some entry →
      entry.resolution.isHostname = false) (resolvedAddrs : List (SocketAddr ι)) (refreshedAt : ℕ) :
    store.applyResolutionRefresh backendAddr resolvedAddrs refreshedAt = (none, store) := by
  unfold RuntimeBackendResolutionStore.applyResolutionRefresh
  split
  · rfl
  · rename_i entry hget
    simp [h entry hget]

namespace SharedDnsResolver

variable (r : SharedDnsResolver ι)

/-- a non-empty list of addresses replaces the host's entry by its canonical form -/
theorem get_setHostAddrs_self (host : String) {addrs : List (SocketAddr ι)} (hne : addrs ≠ []) :
    get (normalizeDnsCacheHost host) (r.setHostAddrs host addrs).cache = some (canonicalize addrs) := by
  simp [setHostAddrs, replaceHostAddrs, hne]

theorem get_setHostAddrs_ne {host : String} {h : List Char} (hh : h ≠ normalizeDnsCacheHost host)
    (addrs : List (SocketAddr ι)) : get h (r.setHostAddrs host addrs).cache = get h r.cache := by
  unfold setHostAddrs replaceHostAddrs
  dsimp only
  split_ifs
  · exact get_erase_ne hh
  · exact get_upsert_ne hh

end SharedDnsResolver

/-- the client after a rotation: an HTTP/2 client one generation up if it builds -/
def BackendTransportEntry.rotated (e : BackendTransportEntry) (build : Except String Unit) : BackendTransportEntry :=
  match e, build with
  | .h2 generation, .ok () => .h2 (min (generation + 1) u64Max)
  | e, _ => e

namespace UpstreamTransportPool

variable (pool : UpstreamTransportPool)

@[simp] theorem get_rotateBackendClient_self (backend : String) (build : Except String Unit) :
    get backend (pool.rotateBackendClient backend build).2.backendEntries =
      (get backend pool.backendEntries).map (·.rotated build) := by
  unfold rotateBackendClient
  cases hg : get backend pool.backendEntries with
  | none => simp [hg]
  | some e =>
    cases e with
    | http1 => simp [hg, BackendTransportEntry.rotated]
    | h2 generation => cases build <;> simp [hg, BackendTransportEntry.rotated]

theorem get_rotateBackendClient_ne {k backend : String} (hk : k ≠ backend) (build : Except String Unit) :
    get k (pool.rotateBackendClient backend build).2.backendEntries = get k pool.backendEntries := by
  unfold rotateBackendClient
  split
  · rfl
  · split
    · rfl
    · exact get_set_ne hk
  · rfl

/-- a refresh rotates the client exactly when the addresses changed -/
theorem rotateOnUpdate_refreshOutcome (previousAddrs : List (SocketAddr ι)) (resolution : BackendResolutionState ι)
    (backendAddr : String) (build : Except String Unit) :
    (pool.rotateOnUpdate (refreshOutcome previousAddrs resolution) backendAddr build).2 =
      if previousAddrs ≠ resolution.resolvedAddrs then (pool.rotateBackendClient backendAddr build).2 else pool := by
  unfold refreshOutcome
  split_ifs <;> rfl

end UpstreamTransportPool

namespace DnsRefreshWorld

variable {w : DnsRefreshWorld ι} {backend : RuntimeBackendLifecycleState ι}

/-- the world after a refresh the store took, of `backend` whose store entry is `entry`: the new resolution in the
store, the answer with port 0 in the cache, and the client rotated if the addresses changed -/
def refreshed (w : DnsRefreshWorld ι) (backend entry : RuntimeBackendLifecycleState ι)
    (resolved : List (SocketAddr ι)) (now : ℕ) (build : Except String Unit) : DnsRefreshWorld ι where
  store := ⟨set backend.backendAddr { entry with resolution := entry.resolution.refreshed (canonicalize resolved) now }
    w.store.entries⟩
  resolver := w.resolver.setHostAddrs backend.resolution.authorityHost
    (resolved.map fun addr => SocketAddr.new addr.ip 0)
  transport := if entry.resolution.resolvedAddrs ≠ canonicalize resolved then
      (w.transport.rotateBackendClient entry.backendAddr build).2
    else w.transport

/-- a non-empty answer for a hostname backend of the store -/
theorem applyBackendDnsRefresh_of_get {resolved : List (SocketAddr ι)} (hne : resolved ≠ [])
    {entry : RuntimeBackendLifecycleState ι} (hget : get backend.backendAddr w.store.entries = some entry)
    (hhost : entry.resolution.isHostname = true) (now : ℕ) (build : Except String Unit) :
    (w.applyBackendDnsRefresh backend (.ok resolved) now build).2 = w.refreshed backend entry resolved now build := by
  simp only [applyBackendDnsRefresh, List.isEmpty_iff, hne, if_false,
    RuntimeBackendResolutionStore.applyResolutionRefresh_of_get hget hhost]
  rw [UpstreamTransportPool.rotateOnUpdate_refreshOutcome]
  rfl

/-- what a refresh can do: nothing, or what the store took -/
theorem applyBackendDnsRefresh_cases (resolvedAddrs : Except String (List (SocketAddr ι))) (now : ℕ)
    (build : Except String Unit) :
    (w.applyBackendDnsRefresh backend resolvedAddrs now build).2 = w ∨
      ∃ resolved entry, resolved ≠ [] ∧ get backend.backendAddr w.store.entries = some entry ∧
        entry.resolution.isHostname = true ∧
        (w.applyBackendDnsRefresh backend resolvedAddrs now build).2 = w.refreshed backend entry resolved now build := by
  rcases resolvedAddrs with error | resolved
  · exact .inl rfl
  by_cases hne : resolved = []
  · left
    simp [applyBackendDnsRefresh, hne]
  by_cases htaken : ∃ entry, get backend.backendAddr w.store.entries = some entry ∧
      entry.resolution.isHostname = true
  · obtain ⟨entry, hget, hhost⟩ := htaken
    exact .inr ⟨resolved, entry, hne, hget, hhost, applyBackendDnsRefresh_of_get hne hget hhost now build⟩
  -- the store refuses: no such backend, or not a hostname one
  left
  have hnone : w.store.applyResolutionRefresh backend.backendAddr resolved now = (none, w.store) := by
    refine RuntimeBackendResolutionStore.applyResolutionRefresh_eq_none ?_ resolved now
    intro entry hget
    simpa using fun hhost => htaken ⟨entry, hget, hhost⟩
  simp [applyBackendDnsRefresh, hne, hnone]

theorem refreshBackendHostname_eq (i : RefreshInput ι) :
    (w.refreshBackendHostname backend i).2 = (w.applyBackendDnsRefresh backend
      (i.lookup.map fun ips => ips.map fun ip => SocketAddr.new ip backend.resolution.authorityPort) i.now i.build).2 :=
  rfl

end DnsRefreshWorld

/-- the addresses a refresh takes from a lookup on `port`: none from a failed lookup or an empty answer -/
def RefreshInput.answer (i : RefreshInput ι) (port : ℕ) : Option (List (SocketAddr ι)) :=
  match i.lookup with
  | .ok ips => if ips.isEmpty then none else some (ips.map fun ip => SocketAddr.new ip port)
  | .error _ => none

omit [LinearOrder ι] in
theorem RefreshInput.ne_nil_of_answer {i : RefreshInput ι} {port : ℕ} {resolved : List (SocketAddr ι)}
    (h : i.answer port = some resolved) : resolved ≠ [] := by
  unfold RefreshInput.answer at h
  split at h
  · split at h
    · cases h
    · rename_i ips _ hne
      cases h
      simpa using hne
  · cases h

namespace DnsRefreshWorld

variable {w : DnsRefreshWorld ι} {backend : RuntimeBackendLifecycleState ι} {i : RefreshInput ι}

/-- a failed lookup or an empty answer changes nothing -/
theorem refreshBackendHostname_of_answer_none (h : i.answer backend.resolution.authorityPort = none) :
    (w.refreshBackendHostname backend i).2 = w := by
  rw [refreshBackendHostname_eq]
  unfold RefreshInput.answer at h
  rcases hl : i.lookup with error | ips
  · rfl
  · rw [hl] at h
    have hnil : ips = [] := by simpa using h
    simp [applyBackendDnsRefresh, hnil, Except.map]

/-- a non-empty answer is a refresh with those addresses on the backend's port -/
theorem refreshBackendHostname_of_answer_some {resolved : List (SocketAddr ι)}
    (h : i.answer backend.resolution.authorityPort = some resolved) :
    (w.refreshBackendHostname backend i).2 = (w.applyBackendDnsRefresh backend (.ok resolved) i.now i.build).2 := by
  rw [refreshBackendHostname_eq]
  unfold RefreshInput.answer at h
  rcases hl : i.lookup with error | ips
  · rw [hl] at h
    cases h
  · rw [hl] at h
    have hne : ips ≠ [] := by
      rintro rfl
      simp at h
    simp only [List.isEmpty_iff, hne, if_false, Option.some.injEq] at h
    subst h
    rfl

end DnsRefreshWorld

/-! ## What no refresh changes of the store -/

namespace RuntimeBackendResolutionStore

/-- the store holds each backend once, under its own address -/
structure Keyed (store : RuntimeBackendResolutionStore ι) : Prop where
  nodup : (store.entries.map Prod.fst).Nodup
  backendAddr : ∀ e ∈ store.entries, e.2.backendAddr = e.1

/-- no hostname backend but `k` has a host the cache keys as `h` -/
def HostUnshared (k : String) (h : List Char) (store : RuntimeBackendResolutionStore ι) : Prop :=
  ∀ e ∈ store.entries, e.2.resolution.isHostname = true → e.1 ≠ k →
    normalizeDnsCacheHost e.2.resolution.authorityHost ≠ h

end RuntimeBackendResolutionStore

namespace DnsRefreshWorld

variable {w : DnsRefreshWorld ι} {backend : RuntimeBackendLifecycleState ι}

theorem keys_applyBackendDnsRefresh (resolvedAddrs : Except String (List (SocketAddr ι))) (now : ℕ)
    (build : Except String Unit) :
    (w.applyBackendDnsRefresh backend resolvedAddrs now build).2.store.entries.map Prod.fst =
      w.store.entries.map Prod.fst := by
  rcases applyBackendDnsRefresh_cases resolvedAddrs now build with heq | ⟨_, _, -, -, -, heq⟩
  · rw [heq]
  · rw [heq]
    exact keys_set

/-- every entry after a refresh has the key, identity, host and kind of an entry before it -/
theorem mem_applyBackendDnsRefresh {resolvedAddrs : Except String (List (SocketAddr ι))} {now : ℕ}
    {build : Except String Unit} {e : String × RuntimeBackendLifecycleState ι}
    (he : e ∈ (w.applyBackendDnsRefresh backend resolvedAddrs now build).2.store.entries) :
    ∃ e₀ ∈ w.store.entries, e.1 = e₀.1 ∧ e.2.backendAddr = e₀.2.backendAddr ∧
      e.2.resolution.authorityHost = e₀.2.resolution.authorityHost ∧
      e.2.resolution.isHostname = e₀.2.resolution.isHostname := by
  rcases applyBackendDnsRefresh_cases resolvedAddrs now build with heq | ⟨resolved, entry, -, hget, -, heq⟩
  · rw [heq] at he
    exact ⟨e, he, rfl, rfl, rfl, rfl⟩
  rw [heq] at he
  rcases mem_set he with rfl | he
  · exact ⟨_, mem_of_get hget, rfl, rfl, rfl, rfl⟩
  · exact ⟨e, he, rfl, rfl, rfl, rfl⟩

theorem keyed_applyBackendDnsRefresh (hkeyed : w.store.Keyed)
    (resolvedAddrs : Except String (List (SocketAddr ι))) (now : ℕ) (build : Except String Unit) :
    (w.applyBackendDnsRefresh backend resolvedAddrs now build).2.store.Keyed where
  nodup := by
    rw [keys_applyBackendDnsRefresh]
    exact hkeyed.nodup
  backendAddr := by
    intro e he
    obtain ⟨e₀, he₀, hkey, haddr, -, -⟩ := mem_applyBackendDnsRefresh he
    rw [hkey, haddr]
    exact hkeyed.backendAddr e₀ he₀

theorem hostUnshared_applyBackendDnsRefresh {k : String} {h : List Char} (hun : w.store.HostUnshared k h)
    (resolvedAddrs : Except String (List (SocketAddr ι))) (now : ℕ) (build : Except String Unit) :
    (w.applyBackendDnsRefresh backend resolvedAddrs now build).2.store.HostUnshared k h := by
  intro e he hhost hk
  obtain ⟨e₀, he₀, hkey, -, hauth, hkind⟩ := mem_applyBackendDnsRefresh he
  rw [hauth]
  rw [hkind] at hhost
  rw [hkey] at hk
  exact hun e₀ he₀ hhost hk

/-- what every refresh keeps, a tick keeps -/
theorem foldl_refresh_induction {P : DnsRefreshWorld ι → Prop}
    (hP : ∀ w backend i, P w → P (w.refreshBackendHostname backend i).2) (input : String → RefreshInput ι) :
    ∀ (L : List (RuntimeBackendLifecycleState ι)) (w : DnsRefreshWorld ι), P w →
      P (L.foldl (fun w backend => (w.refreshBackendHostname backend (input backend.backendAddr)).2) w)
  | [], _, hw => hw
  | x :: L, w, hw => foldl_refresh_induction hP input L _ (hP w x _ hw)

theorem keyed_refreshTick (hkeyed : w.store.Keyed) (input : String → RefreshInput ι) :
    (w.refreshTick input).store.Keyed :=
  foldl_refresh_induction (P := fun w => w.store.Keyed)
    (fun _ _ _ hw => keyed_applyBackendDnsRefresh hw _ _ _) input _ w hkeyed

theorem hostUnshared_refreshTick {k : String} {h : List Char} (hun : w.store.HostUnshared k h)
    (input : String → RefreshInput ι) : (w.refreshTick input).store.HostUnshared k h :=
  foldl_refresh_induction (P := fun w => w.store.HostUnshared k h)
    (fun _ _ _ hw => hostUnshared_applyBackendDnsRefresh hw _ _ _) input _ w hun

end DnsRefreshWorld

namespace RuntimeBackendResolutionStore

variable {store : RuntimeBackendResolutionStore ι}

omit [LinearOrder ι] in
/-- a backend of the snapshot is the store's entry of its own address, a hostname one -/
theorem mem_entries_of_mem_hostnameBackends (hkeyed : store.Keyed) {x : RuntimeBackendLifecycleState ι}
    (hx : x ∈ store.hostnameBackends) :
    (x.backendAddr, x) ∈ store.entries ∧ x.resolution.isHostname = true := by
  obtain ⟨hmem, hhost⟩ := List.mem_filter.1 hx
  obtain ⟨e, he, rfl⟩ := List.mem_map.1 hmem
  refine ⟨?_, hhost⟩
  rw [hkeyed.backendAddr e he]
  exact he

omit [LinearOrder ι] in
theorem mem_hostnameBackends_of_mem {a : String} {x : RuntimeBackendLifecycleState ι} (he : (a, x) ∈ store.entries)
    (hhost : x.resolution.isHostname = true) : x ∈ store.hostnameBackends :=
  List.mem_filter.2 ⟨List.mem_map.2 ⟨_, he, rfl⟩, hhost⟩

omit [LinearOrder ι] in
/-- the snapshot holds each backend once -/
theorem nodup_hostnameBackends (hkeyed : store.Keyed) :
    (store.hostnameBackends.map (·.backendAddr)).Nodup := by
  have hsub : (store.hostnameBackends.map (·.backendAddr)).Sublist
      ((store.entries.map Prod.snd).map (·.backendAddr)) :=
    List.filter_sublist.map _
  -- under its own address, each entry's identity is its key
  have hkeys : (store.entries.map Prod.snd).map (·.backendAddr) = store.entries.map Prod.fst := by
    rw [List.map_map]
    exact List.map_congr_left fun e he => hkeyed.backendAddr e he
  rw [hkeys] at hsub
  exact hkeyed.nodup.sublist hsub

end RuntimeBackendResolutionStore

/-! ## One backend's view

What a backend's own refreshes act on: its resolution in the store, the DNS cache's entry of its host, and its
client. A refresh of the backend acts on its view as `BackendView.refresh`, and a refresh of another backend does not
touch it, as long as no other hostname backend's host normalises like its own.
-/

/-- a backend's resolution, the cache entry of its host, and its transport client -/
structure BackendView (ι : Type) where
  resolution : BackendResolutionState ι
  cached : Option (List (SocketAddr ι))
  client : Option BackendTransportEntry

/-- one refresh of the backend, on its view -/
def BackendView.refresh (port : ℕ) (v : BackendView ι) (i : RefreshInput ι) : BackendView ι :=
  match i.answer port with
  | none => v
  | some resolved =>
    { resolution := v.resolution.refreshed (canonicalize resolved) i.now
      cached := some (canonicalize (resolved.map fun addr => SocketAddr.new addr.ip 0))
      client := if v.resolution.resolvedAddrs ≠ canonicalize resolved then v.client.map (·.rotated i.build)
        else v.client }

namespace BackendView

variable {port : ℕ} {v : BackendView ι} {i : RefreshInput ι}

theorem refresh_of_answer_none (h : i.answer port = none) : v.refresh port i = v := by
  simp [refresh, h]

@[simp] theorem authorityHost_refresh : (v.refresh port i).resolution.authorityHost = v.resolution.authorityHost := by
  unfold refresh
  split <;> simp

@[simp] theorem authorityPort_refresh : (v.refresh port i).resolution.authorityPort = v.resolution.authorityPort := by
  unfold refresh
  split <;> simp

@[simp] theorem isHostname_refresh : (v.refresh port i).resolution.isHostname = v.resolution.isHostname := by
  unfold refresh
  split <;> simp

end BackendView

/-- the world holds the view `v` of backend `k`, whose host the cache keys as `h` -/
structure Tracks (k : String) (h : List Char) (v : BackendView ι) (w : DnsRefreshWorld ι) : Prop where
  store : get k w.store.entries = some ⟨k, v.resolution⟩
  cache : get h w.resolver.cache = v.cached
  client : get k w.transport.backendEntries = v.client

namespace Tracks

open DnsRefreshWorld

variable {k : String} {h : List Char} {v : BackendView ι} {w : DnsRefreshWorld ι}

/-- a refresh of another backend, whose host is cached elsewhere, keeps the view -/
theorem applyBackendDnsRefresh_other (ht : Tracks k h v w) (hkeyed : w.store.Keyed)
    {backend : RuntimeBackendLifecycleState ι} (hk : backend.backendAddr ≠ k)
    (hh : normalizeDnsCacheHost backend.resolution.authorityHost ≠ h)
    (resolvedAddrs : Except String (List (SocketAddr ι))) (now : ℕ) (build : Except String Unit) :
    Tracks k h v (w.applyBackendDnsRefresh backend resolvedAddrs now build).2 := by
  rcases applyBackendDnsRefresh_cases resolvedAddrs now build with heq | ⟨resolved, entry, -, hget, -, heq⟩
  · rwa [heq]
  rw [heq]
  -- the client rotated is the one of the entry's own address
  have hentry : entry.backendAddr = backend.backendAddr := hkeyed.backendAddr _ (mem_of_get hget)
  refine ⟨?_, ?_, ?_⟩
  · exact (get_set_ne (Ne.symm hk)).trans ht.store
  · exact (SharedDnsResolver.get_setHostAddrs_ne _ (Ne.symm hh) _).trans ht.cache
  · dsimp only [refreshed]
    split_ifs
    · rw [UpstreamTransportPool.get_rotateBackendClient_ne _ (hentry ▸ Ne.symm hk)]
      exact ht.client
    · exact ht.client

theorem refreshBackendHostname_other (ht : Tracks k h v w) (hkeyed : w.store.Keyed)
    {backend : RuntimeBackendLifecycleState ι} (hk : backend.backendAddr ≠ k)
    (hh : normalizeDnsCacheHost backend.resolution.authorityHost ≠ h) (i : RefreshInput ι) :
    Tracks k h v (w.refreshBackendHostname backend i).2 :=
  ht.applyBackendDnsRefresh_other hkeyed hk hh _ _ _

/-- the backend's own refresh acts on its view as `BackendView.refresh` -/
theorem refreshBackendHostname_self (ht : Tracks k h v w) (hh : normalizeDnsCacheHost v.resolution.authorityHost = h)
    (hhost : v.resolution.isHostname = true) (i : RefreshInput ι) :
    Tracks k h (v.refresh v.resolution.authorityPort i) (w.refreshBackendHostname ⟨k, v.resolution⟩ i).2 := by
  cases hans : i.answer v.resolution.authorityPort with
  | none =>
    rw [refreshBackendHostname_of_answer_none hans, BackendView.refresh_of_answer_none hans]
    exact ht
  | some resolved =>
    have hne := RefreshInput.ne_nil_of_answer hans
    rw [refreshBackendHostname_of_answer_some hans, applyBackendDnsRefresh_of_get hne ht.store hhost]
    refine ⟨?_, ?_, ?_⟩
    · simp [refreshed, BackendView.refresh, hans, ht.store]
    · rw [← hh]
      simpa [refreshed, BackendView.refresh, hans] using
        SharedDnsResolver.get_setHostAddrs_self w.resolver v.resolution.authorityHost (by simpa using hne)
    · simp only [refreshed, BackendView.refresh, hans]
      split_ifs
      · simpa using congrArg (Option.map (·.rotated i.build)) ht.client
      · exact ht.client

/-- refreshing the backends `L` in turn: `k`'s view takes its own refresh if `k` is among them, and no other refresh
touches it -/
theorem foldl_refresh (input : String → RefreshInput ι) :
    ∀ (L : List (RuntimeBackendLifecycleState ι)) {v : BackendView ι} {w : DnsRefreshWorld ι},
      Tracks k h v w → w.store.Keyed → (L.map (·.backendAddr)).Nodup →
      (∀ x ∈ L, x.backendAddr ≠ k → normalizeDnsCacheHost x.resolution.authorityHost ≠ h) →
      (∀ x ∈ L, x.backendAddr = k → x = ⟨k, v.resolution⟩) →
      normalizeDnsCacheHost v.resolution.authorityHost = h → v.resolution.isHostname = true →
      Tracks k h (if k ∈ L.map (·.backendAddr) then v.refresh v.resolution.authorityPort (input k) else v)
        (L.foldl (fun w backend => (w.refreshBackendHostname backend (input backend.backendAddr)).2) w)
  | [], _, _, ht, _, _, _, _, _, _ => by simpa using ht
  | x :: L, v, w, ht, hkeyed, hnd, hother, hown, hh, hhost => by
    obtain ⟨hx, hndL⟩ := List.nodup_cons.1 hnd
    have hkeyed' : (w.refreshBackendHostname x (input x.backendAddr)).2.store.Keyed :=
      keyed_applyBackendDnsRefresh hkeyed _ _ _
    rw [List.foldl_cons]
    by_cases hxk : x.backendAddr = k
    · -- `k`'s own refresh, after which `k` comes no more
      obtain rfl := hown x List.mem_cons_self hxk
      have hkL : k ∉ L.map (·.backendAddr) := hx
      have hrest := foldl_refresh input L (ht.refreshBackendHostname_self hh hhost (input k)) hkeyed' hndL
        (fun y hy => hother y (List.mem_cons_of_mem _ hy))
        (fun y hy hyk => absurd (hyk ▸ List.mem_map_of_mem hy) hkL) (by simpa using hh) (by simpa using hhost)
      simpa [hkL] using hrest
    · -- another backend's refresh
      have hrest := foldl_refresh input L
        (ht.refreshBackendHostname_other hkeyed hxk (hother x List.mem_cons_self hxk) _) hkeyed' hndL
        (fun y hy => hother y (List.mem_cons_of_mem _ hy)) (fun y hy => hown y (List.mem_cons_of_mem _ hy)) hh hhost
      simpa [Ne.symm hxk] using hrest

/-- a tick refreshes `k` once, with its own input, and no other refresh of the tick touches it -/
theorem refreshTick (ht : Tracks k h v w) (hkeyed : w.store.Keyed) (hun : w.store.HostUnshared k h)
    (hh : normalizeDnsCacheHost v.resolution.authorityHost = h) (hhost : v.resolution.isHostname = true)
    (input : String → RefreshInput ι) :
    Tracks k h (v.refresh v.resolution.authorityPort (input k)) (w.refreshTick input) := by
  have hmem : ⟨k, v.resolution⟩ ∈ w.store.hostnameBackends :=
    RuntimeBackendResolutionStore.mem_hostnameBackends_of_mem (mem_of_get ht.store) hhost
  have hk : k ∈ w.store.hostnameBackends.map (·.backendAddr) := List.mem_map_of_mem hmem
  have hother : ∀ x ∈ w.store.hostnameBackends, x.backendAddr ≠ k →
      normalizeDnsCacheHost x.resolution.authorityHost ≠ h := by
    intro x hx hxk
    obtain ⟨hxe, hxhost⟩ := RuntimeBackendResolutionStore.mem_entries_of_mem_hostnameBackends hkeyed hx
    exact hun (x.backendAddr, x) hxe hxhost hxk
  have hown : ∀ x ∈ w.store.hostnameBackends, x.backendAddr = k → x = ⟨k, v.resolution⟩ := by
    intro x hx hxk
    obtain ⟨hxe, -⟩ := RuntimeBackendResolutionStore.mem_entries_of_mem_hostnameBackends hkeyed hx
    rw [hxk] at hxe
    exact Option.some.inj ((get_of_mem hkeyed.nodup hxe).symm.trans ht.store)
  have hfold := foldl_refresh input w.store.hostnameBackends ht hkeyed
    (RuntimeBackendResolutionStore.nodup_hostnameBackends hkeyed) hother hown hh hhost
  rw [if_pos hk] at hfold
  exact hfold

/-- over a run, `k` evolves as its own view under its own inputs, one per tick -/
theorem refreshRun :
    ∀ (ticks : List (String → RefreshInput ι)) {v : BackendView ι} {w : DnsRefreshWorld ι},
      Tracks k h v w → w.store.Keyed → w.store.HostUnshared k h →
      normalizeDnsCacheHost v.resolution.authorityHost = h → v.resolution.isHostname = true →
      Tracks k h ((ticks.map (· k)).foldl (BackendView.refresh v.resolution.authorityPort) v) (w.refreshRun ticks)
  | [], _, _, ht, _, _, _, _ => ht
  | t :: ticks, v, w, ht, hkeyed, hun, hh, hhost => by
    have hrest := refreshRun ticks (ht.refreshTick hkeyed hun hh hhost t) (keyed_refreshTick hkeyed t)
      (hostUnshared_refreshTick hun t) (by simpa using hh) (by simpa using hhost)
    simpa [DnsRefreshWorld.refreshRun] using hrest

end Tracks

/-! ## What a backend's view holds after its refreshes -/

/-- the non-empty answers among a backend's refreshes, on its port -/
def refreshAnswers (port : ℕ) (hs : List (RefreshInput ι)) : List (List (SocketAddr ι)) :=
  hs.filterMap (·.answer port)

omit [LinearOrder ι] in
theorem refreshAnswers_append_singleton (port : ℕ) (hs : List (RefreshInput ι)) (i : RefreshInput ι) :
    refreshAnswers port (hs ++ [i]) = refreshAnswers port hs ++ (i.answer port).toList := by
  cases h : i.answer port <;> simp [refreshAnswers, List.filterMap_append, h]

namespace BackendView

variable (port : ℕ)

/-- the addresses are the canonical form of the last non-empty answer, or the first ones before any -/
theorem resolvedAddrs_foldl_refresh (hs : List (RefreshInput ι)) (v : BackendView ι) :
    (hs.foldl (refresh port) v).resolution.resolvedAddrs =
      (((refreshAnswers port hs).getLast?).map canonicalize).getD v.resolution.resolvedAddrs := by
  induction hs using List.reverseRecOn with
  | nil => simp [refreshAnswers]
  | append_singleton hs i ih =>
    rw [List.foldl_append, List.foldl_cons, List.foldl_nil, refreshAnswers_append_singleton]
    cases hans : i.answer port with
    | none => simp [refresh_of_answer_none hans, ih]
    | some resolved => simp [refresh, hans, BackendResolutionState.refreshed]

/-- the refresh generation counts the non-empty answers, saturating at `u64::MAX` -/
theorem refreshGeneration_foldl_refresh (hs : List (RefreshInput ι)) {v : BackendView ι}
    (hg : v.resolution.refreshGeneration ≤ u64Max) :
    (hs.foldl (refresh port) v).resolution.refreshGeneration =
      min (v.resolution.refreshGeneration + (refreshAnswers port hs).length) u64Max := by
  induction hs using List.reverseRecOn with
  | nil => simpa [refreshAnswers] using hg
  | append_singleton hs i ih =>
    rw [List.foldl_append, List.foldl_cons, List.foldl_nil, refreshAnswers_append_singleton]
    cases hans : i.answer port with
    | none => simp [refresh_of_answer_none hans, ih]
    | some resolved =>
      simp only [refresh, hans, BackendResolutionState.refreshed, ih, Option.toList_some, List.length_append,
        List.length_singleton]
      omega

/-- the cache entry of the backend's host holds its addresses with port 0, and there is none while it has none -/
def Agrees (v : BackendView ι) : Prop :=
  v.cached = if v.resolution.resolvedAddrs = [] then none
    else some (canonicalize (v.resolution.resolvedAddrs.map fun addr => SocketAddr.new addr.ip 0))

variable {port}

theorem Agrees.refresh {v : BackendView ι} (hv : v.Agrees) (i : RefreshInput ι) : (v.refresh port i).Agrees := by
  cases hans : i.answer port with
  | none => rwa [refresh_of_answer_none hans]
  | some resolved =>
    have hne := RefreshInput.ne_nil_of_answer hans
    -- the cache keeps the answer with port 0; canonicalising the store's canonical form first changes nothing
    simp [Agrees, BackendView.refresh, hans, BackendResolutionState.refreshed, hne,
      canonicalize_map_canonicalize]

theorem Agrees.foldl_refresh {v : BackendView ι} (hv : v.Agrees) (hs : List (RefreshInput ι)) :
    (hs.foldl (BackendView.refresh port) v).Agrees := by
  induction hs generalizing v with
  | nil => exact hv
  | cons i hs ih => exact ih (hv.refresh i)

end BackendView

/-! ## From startup -/

namespace RuntimeBackendResolutionStore

variable {seeds : List (RuntimeBackendResolution ι)}

/-- the step of `new` -/
def seedStep (m : List (String × RuntimeBackendLifecycleState ι)) (entry : RuntimeBackendResolution ι) :
    List (String × RuntimeBackendLifecycleState ι) :=
  upsert entry.backendAddr (RuntimeBackendLifecycleState.fromResolutionSeed entry) m

omit [LinearOrder ι] in
theorem mem_foldl_seedStep {e : String × RuntimeBackendLifecycleState ι} :
    ∀ (seeds : List (RuntimeBackendResolution ι)) (m : List (String × RuntimeBackendLifecycleState ι)),
      e ∈ seeds.foldl seedStep m → e ∈ m ∨ ∃ s ∈ seeds, e = (s.backendAddr, .fromResolutionSeed s)
  | [], _, he => .inl he
  | s :: seeds, m, he => by
    rcases mem_foldl_seedStep seeds _ he with he | ⟨s', hs', rfl⟩
    · rcases mem_upsert he with rfl | he
      · exact .inr ⟨s, List.mem_cons_self, rfl⟩
      · exact .inl he
    · exact .inr ⟨s', List.mem_cons_of_mem _ hs', rfl⟩

omit [LinearOrder ι] in
theorem nodup_foldl_seedStep :
    ∀ (seeds : List (RuntimeBackendResolution ι)) (m : List (String × RuntimeBackendLifecycleState ι)),
      (m.map Prod.fst).Nodup → ((seeds.foldl seedStep m).map Prod.fst).Nodup
  | [], _, hm => hm
  | _ :: seeds, _, hm => nodup_foldl_seedStep seeds _ (nodup_upsert hm)

omit [LinearOrder ι] in
/-- the store reads a backend as its last seed, here its only one -/
theorem get_foldl_seedStep (s₀ : RuntimeBackendResolution ι) :
    ∀ (seeds : List (RuntimeBackendResolution ι)) (m : List (String × RuntimeBackendLifecycleState ι)),
      (∀ s ∈ seeds, s.backendAddr = s₀.backendAddr → s = s₀) →
      (s₀ ∈ seeds ∨ get s₀.backendAddr m = some (.fromResolutionSeed s₀)) →
      get s₀.backendAddr (seeds.foldl seedStep m) = some (.fromResolutionSeed s₀)
  | [], _, _, hm => by simpa using hm
  | s :: seeds, m, hkey, hm => by
    apply get_foldl_seedStep s₀ seeds _ (fun s' hs' => hkey s' (List.mem_cons_of_mem _ hs'))
    by_cases hs : s.backendAddr = s₀.backendAddr
    · obtain rfl := hkey s List.mem_cons_self hs
      exact .inr get_upsert_self
    · rw [seedStep, get_upsert_ne (Ne.symm hs)]
      rcases hm with hm | hm
      · rcases List.mem_cons.1 hm with rfl | hm
        · exact absurd rfl hs
        · exact .inl hm
      · exact .inr hm

omit [LinearOrder ι] in
theorem keyed_new (seeds : List (RuntimeBackendResolution ι)) : (new seeds).Keyed where
  nodup := nodup_foldl_seedStep seeds [] List.nodup_nil
  backendAddr := by
    intro e he
    rcases mem_foldl_seedStep seeds [] he with he | ⟨s, -, rfl⟩
    · cases he
    · rfl

end RuntimeBackendResolutionStore

/-- from startup, over any run of refresh ticks and whatever the lookups, the clock and the client builds answer:
a hostname backend whose host no other hostname backend shares has, as addresses, the canonical form of its last
non-empty answer (none before the first), its refresh generation counts its non-empty answers, and the transport's
connector resolves any name that normalises like its host to exactly those addresses with port 0, falling back to
the system resolver only while it has none -/
theorem dnsCache_agrees_with_store (seeds : List (RuntimeBackendResolution ι)) (transport : UpstreamTransportPool)
    (ticks : List (String → RefreshInput ι)) {k host : String} {port : ℕ}
    (hseed : RuntimeBackendResolution.hostname k host port ∈ seeds)
    (hkey : ∀ s ∈ seeds, s.backendAddr = k → s = .hostname k host port)
    (hhost : ∀ s ∈ seeds, s.isHostname = true → s.backendAddr ≠ k →
      normalizeDnsCacheHost s.authorityHost ≠ normalizeDnsCacheHost host) :
    ∃ resolution, ((DnsRefreshWorld.startup seeds transport).refreshRun ticks).store.backend k =
        some ⟨k, resolution⟩ ∧
      resolution.resolvedAddrs = (((refreshAnswers port (ticks.map (· k))).getLast?).map canonicalize).getD [] ∧
      resolution.refreshGeneration = min (refreshAnswers port (ticks.map (· k))).length u64Max ∧
      ∀ name fallback, normalizeDnsCacheHost name = normalizeDnsCacheHost host →
        ((DnsRefreshWorld.startup seeds transport).refreshRun ticks).resolver.resolve name fallback =
          if resolution.resolvedAddrs = [] then fallback
          else .ok (canonicalize (resolution.resolvedAddrs.map fun addr => SocketAddr.new addr.ip 0)) := by
  let v₀ : BackendView ι :=
    ⟨(RuntimeBackendResolution.hostname k host port : RuntimeBackendResolution ι).resolutionState, none,
      get k transport.backendEntries⟩
  have hstore : get k (RuntimeBackendResolutionStore.new seeds).entries = some ⟨k, v₀.resolution⟩ :=
    RuntimeBackendResolutionStore.get_foldl_seedStep (.hostname k host port) seeds [] hkey (.inl hseed)
  have ht₀ : Tracks k (normalizeDnsCacheHost host) v₀ (DnsRefreshWorld.startup seeds transport) :=
    ⟨hstore, rfl, rfl⟩
  -- the startup store shares no host with `k`: every entry is a seed
  have hun : (DnsRefreshWorld.startup seeds transport).store.HostUnshared k (normalizeDnsCacheHost host) := by
    intro e he ehost ek
    rcases RuntimeBackendResolutionStore.mem_foldl_seedStep seeds [] he with he | ⟨s, hs, rfl⟩
    · cases he
    · exact hhost s hs ehost ek
  have ht := ht₀.refreshRun ticks (RuntimeBackendResolutionStore.keyed_new seeds) hun rfl rfl
  have hport : v₀.resolution.authorityPort = port := rfl
  rw [hport] at ht
  have hagree : ((ticks.map (· k)).foldl (BackendView.refresh port) v₀).Agrees :=
    BackendView.Agrees.foldl_refresh (by simp [BackendView.Agrees, v₀, RuntimeBackendResolution.resolutionState,
      RuntimeBackendResolution.hostname]) _
  have hg₀ : v₀.resolution.refreshGeneration ≤ u64Max := Nat.zero_le _
  refine ⟨_, ht.store, ?_, ?_, ?_⟩
  · simpa [v₀, RuntimeBackendResolution.resolutionState, RuntimeBackendResolution.hostname] using
      BackendView.resolvedAddrs_foldl_refresh port (ticks.map (· k)) v₀
  · simpa [v₀, RuntimeBackendResolution.resolutionState, RuntimeBackendResolution.hostname] using
      BackendView.refreshGeneration_foldl_refresh port (ticks.map (· k)) hg₀
  · intro name fallback hname
    rw [SharedDnsResolver.resolve, SharedDnsResolver.cachedAddrs, hname, ht.cache, hagree]
    split_ifs <;> rfl

/-- two hostname backends with different hosts and an IP-literal backend, as the configuration seeds them -/
def twoHostSeeds : List (RuntimeBackendResolution ℕ) :=
  [.hostname "db" "db.internal" 5432, .hostname "cache" "Cache.Internal." 6379,
    .ipLiteral "10.0.0.9:80" "10.0.0.9" 80 [SocketAddr.new 9 80]]

/-- three ticks: `db`'s host answers `2, 1, 2`, then its lookup fails, then it answers nothing and the client build
fails; `cache`'s host answers `7` each time -/
def twoHostTicks : List (String → RefreshInput ℕ) :=
  [fun k => ⟨if k = "db" then .ok [2, 1, 2] else .ok [7], 1, .ok ()⟩,
    fun k => ⟨if k = "db" then .error "timeout" else .ok [7], 2, .ok ()⟩,
    fun k => ⟨if k = "db" then .ok [] else .ok [7], 3, .error "refused"⟩]

theorem dbBackend_cache_agrees :
    ∃ resolution, ((DnsRefreshWorld.startup twoHostSeeds ⟨[("db", .h2 0), ("cache", .http1)]⟩).refreshRun
        twoHostTicks).store.backend "db" = some ⟨"db", resolution⟩ ∧
      resolution.resolvedAddrs =
        (((refreshAnswers 5432 (twoHostTicks.map (· "db"))).getLast?).map canonicalize).getD [] ∧
      resolution.refreshGeneration = min (refreshAnswers 5432 (twoHostTicks.map (· "db"))).length u64Max ∧
      ∀ name fallback, normalizeDnsCacheHost name = normalizeDnsCacheHost "db.internal" →
        ((DnsRefreshWorld.startup twoHostSeeds ⟨[("db", .h2 0), ("cache", .http1)]⟩).refreshRun
          twoHostTicks).resolver.resolve name fallback =
          if resolution.resolvedAddrs = [] then fallback
          else .ok (canonicalize (resolution.resolvedAddrs.map fun addr => SocketAddr.new addr.ip 0)) :=
  dnsCache_agrees_with_store _ _ twoHostTicks (by simp [twoHostSeeds])
    (by simp [twoHostSeeds, RuntimeBackendResolution.hostname, RuntimeBackendResolution.ipLiteral]) (by decide)

end Spooky.Edge
