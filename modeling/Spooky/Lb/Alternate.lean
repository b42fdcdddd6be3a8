/-
Alternate-backend choice for retries and hedges (`crates/lb/src/alternate_backend.rs`) over the upstream pool
(`crates/lb/src/upstream_pool.rs`) and the read-only pick of its strategy (`crates/lb/src/load_balancing.rs`,
`crates/lb/src/algorithms/round_robin.rs`, `crates/lb/src/algorithms/random.rs`).

`choose_alternate_backend` offers the strategy's read-only pick unless it is excluded, then the first index of
`healthy` that is not excluded, and otherwise says why it chose nothing, from the length of `healthy`. Every candidate
comes from `healthy`, so the choice is only as sound as the membership cache. With debug assertions the cache holds
exactly the healthy indices and the choice is sound (`choice_sound_of_membership`). In the release profile the cache
is never updated: after the only backend is ejected every strategy still chooses it, and the choice never answers
`NoHealthyBackends` (`release_choice_picks_ejected_backend`).

The round-robin counters are unbounded here: `wrapping_add` and `fetch_add` wrap at `usize::MAX`, after which
`next % len` is still an index of `healthy`. The random strategy's draw is an input, as in `Spooky.Lb.Picks`. The
`lb_key` argument is left out: it only reaches `pick_readonly`, which ignores it.
-/
import Spooky.Lb.Picks
import Spooky.Lb.PoolInvariants

namespace Spooky.Lb

open Counters

/-- the counters of round-robin: `next` for `pick`, the atomic `next_read` for `pick_readonly` -/
structure RoundRobin where
  next : ℕ
  nextRead : ℕ
deriving DecidableEq, Repr

namespace RoundRobin

def new : RoundRobin := ⟨0, 0⟩

/-- `pick_readonly`: the index and the counters after `next_read.fetch_add(1)` -/
def pickReadonly (rr : RoundRobin) (pool : BackendPool) : Option ℕ × RoundRobin :=
  if pool.healthy.isEmpty then (none, rr)
  else (pool.healthy[rr.nextRead % pool.healthy.length]?, { rr with nextRead := wrappingSucc usizeMax rr.nextRead })

end RoundRobin

namespace Random

/-- `pick_readonly`, where `draw % len` stands for the generator's `gen_range(0..len)` -/
def pickReadonly (draw : ℕ) (pool : BackendPool) : Option ℕ :=
  if pool.healthy.isEmpty then none else pool.healthy[draw % pool.healthy.length]?

end Random

/-- `RuntimeLoadBalancingStrategy` -/
inductive RuntimeLoadBalancingStrategy where
  | roundRobin
  | consistentHash
  | random
  | leastConnections
  | latencyAware
  | stickyCid
  | other
deriving DecidableEq, Repr

namespace RuntimeLoadBalancingStrategy

def supportsReadonlyAlternatePick : RuntimeLoadBalancingStrategy → Bool
  | .consistentHash | .stickyCid | .other => false
  | _ => true

end RuntimeLoadBalancingStrategy

/-- `DEFAULT_REPLICAS` -/
def defaultReplicas : ℕ := 64

/-- the strategy state of an upstream -/
inductive LoadBalancing where
  | roundRobin (rr : RoundRobin)
  | consistentHash (ch : ConsistentHash)
  | random
  | leastConnections
  | latencyAware
  | stickyCid (inner : ConsistentHash)
deriving DecidableEq, Repr

namespace LoadBalancing

/-- `from_runtime_strategy`, through `from_config` of the strategy's canonical name -/
def fromRuntimeStrategy : RuntimeLoadBalancingStrategy → Option LoadBalancing
  | .roundRobin => some (.roundRobin RoundRobin.new)
  | .consistentHash => some (.consistentHash (ConsistentHash.new defaultReplicas))
  | .random => some .random
  | .leastConnections => some .leastConnections
  | .latencyAware => some .latencyAware
  | .stickyCid => some (.stickyCid (ConsistentHash.new defaultReplicas))
  | .other => none

variable {F : Type} [LinearOrder F] [Add F] [Mul F] [NatCast F]

/-- `pick_readonly`: the index and the strategy state after the call; `none` is a panic -/
def pickReadonly (draw : ℕ) (lb : LoadBalancing) (lp : LoadedPool F) : Option (Option ℕ × LoadBalancing) :=
  match lb with
  | .roundRobin rr => some ((rr.pickReadonly lp.pool).1, .roundRobin (rr.pickReadonly lp.pool).2)
  | .random => some (Random.pickReadonly draw lp.pool, lb)
  | .leastConnections => (LeastConnections.pickReadonly lp).map fun r => (r, lb)
  | .latencyAware => (LatencyAware.pickReadonly lp).map fun r => (r, lb)
  -- the consistent-hash strategies keep mutable ring caches and offer no read-only pick
  | .consistentHash _ | .stickyCid _ => some (none, lb)

end LoadBalancing

/-- `RuntimeAlternateBackendPolicy` -/
structure RuntimeAlternateBackendPolicy where
  readonlyLbPick : Bool
  healthyFallback : Bool
deriving DecidableEq, Repr

/-- the alternate-backend policy `RuntimeLoadBalancingPolicy::normalize` derives from a strategy -/
def RuntimeAlternateBackendPolicy.ofStrategy (strategy : RuntimeLoadBalancingStrategy) :
    RuntimeAlternateBackendPolicy :=
  ⟨strategy.supportsReadonlyAlternatePick, true⟩

/-- an upstream pool: the backends with their counters, the strategy state and the alternate-backend policy of its
load-balancing policy -/
structure UpstreamPool (F : Type) where
  lp : LoadedPool F
  loadBalancer : LoadBalancing
  alternateBackend : RuntimeAlternateBackendPolicy

namespace UpstreamPool

variable {F : Type}

/-- `from_runtime_upstream`: fresh backend states, no requests and no latency sample yet; `none` is its error for a
strategy it cannot build -/
def fromRuntimeUpstream (strategy : RuntimeLoadBalancingStrategy) (backends : List Backend) : Option (UpstreamPool F) :=
  (LoadBalancing.fromRuntimeStrategy strategy).map fun lb =>
    ⟨⟨BackendPool.newFromStates (backends.map BackendState.new), backends.map fun _ => ⟨0, none⟩, by
      simp [BackendPool.newFromStates]⟩, lb, .ofStrategy strategy⟩

/-- the upstream pool once a health update of `BackendPool` (`mark_backend_healthy`,
`mark_backend_failure_from_active_check`, `mark_backend_request_failure` delegate to it) has left `p` -/
def withPool (up : UpstreamPool F) (p : BackendPool) (h : p.backends.length = up.lp.pool.backends.length) :
    UpstreamPool F :=
  ⟨⟨p, up.lp.load, up.lp.load_length.trans h.symm⟩, up.loadBalancer, up.alternateBackend⟩

end UpstreamPool

inductive AlternateBackendSelectionMode where
  | loadBalancerReadonly
  | healthyFallback
deriving DecidableEq, Repr

structure AlternateBackendChoice where
  index : ℕ
  mode : AlternateBackendSelectionMode
deriving DecidableEq, Repr

inductive AlternateBackendFailureReason where
  | noHealthyBackends
  | onlyExcludedBackendsHealthy
  | poolUnavailable
  | backendAddressMissing
deriving DecidableEq, Repr

inductive AlternateBackendDecision where
  | select (choice : AlternateBackendChoice)
  | doNotSelect (denial : AlternateBackendFailureReason)
deriving DecidableEq, Repr

def isExcluded (index : ℕ) (excludedIndices : List ℕ) : Bool := excludedIndices.contains index

section Choose

variable {F : Type} [LinearOrder F] [Add F] [Mul F] [NatCast F]

/-- `choose_alternate_backend`: the decision and the strategy state after the read-only pick; `none` is a panic -/
def chooseAlternateBackend (draw : ℕ) (pool : UpstreamPool F) (excludedIndices : List ℕ) :
    Option (AlternateBackendDecision × LoadBalancing) :=
  let policy := pool.alternateBackend
  let readonly : Option (Option ℕ × LoadBalancing) :=
    if policy.readonlyLbPick then
      (pool.loadBalancer.pickReadonly draw pool.lp).map fun r =>
        (r.1.filter fun index => !isExcluded index excludedIndices, r.2)
    else some (none, pool.loadBalancer)
  readonly.map fun r =>
    match r.1 with
    | some index => (.select ⟨index, .loadBalancerReadonly⟩, r.2)
    | none =>
      let fallback :=
        if policy.healthyFallback then pool.lp.pool.healthy.find? fun index => !isExcluded index excludedIndices
        else none
      match fallback with
      | some index => (.select ⟨index, .healthyFallback⟩, r.2)
      | none =>
        if pool.lp.pool.healthy.length = 0 then (.doNotSelect .noHealthyBackends, r.2)
        else (.doNotSelect .onlyExcludedBackendsHealthy, r.2)

end Choose

/-! ## The choice reads the cache -/

section Spec

variable {F : Type} [LinearOrder F] [Add F] [Mul F] [NatCast F]

/-- every read-only pick returns an index of `healthy`, and none when `healthy` is empty -/
theorem LoadBalancing.pickReadonly_spec (draw : ℕ) (lb : LoadBalancing) {lp : LoadedPool F}
    (hin : ∀ i ∈ lp.pool.healthy, i < lp.pool.backends.length) :
    ∃ r lb', lb.pickReadonly draw lp = some (r, lb') ∧ (∀ i, r = some i → i ∈ lp.pool.healthy) ∧
      (lp.pool.healthy = [] → r = none) := by
  cases lb with
  | roundRobin rr =>
    refine ⟨_, _, rfl, fun i hi => ?_, fun hnil => by simp [RoundRobin.pickReadonly, hnil]⟩
    unfold RoundRobin.pickReadonly at hi
    split at hi
    · cases hi
    · exact List.mem_of_getElem? hi
  | random =>
    refine ⟨_, _, rfl, fun i hi => ?_, fun hnil => by simp [Random.pickReadonly, hnil]⟩
    unfold Random.pickReadonly at hi
    split at hi
    · cases hi
    · exact List.mem_of_getElem? hi
  | leastConnections =>
    have h := LeastConnections.pickReadonly_eq hin
    refine ⟨_, _, by rw [pickReadonly, h]; rfl, fun i hi => LeastConnections.pickReadonly_mem (hi ▸ h), ?_⟩
    intro hnil
    rw [hnil]
    rfl
  | latencyAware =>
    have h := LatencyAware.pickReadonly_eq hin
    refine ⟨_, _, by rw [pickReadonly, h]; rfl, fun i hi => LatencyAware.pickReadonly_mem (hi ▸ h), ?_⟩
    intro hnil
    simp only [hnil, LoadedPool.unsampledKeys, LoadedPool.sampledKeys, List.filter_nil, List.map_nil,
      List.filterMap_nil, List.min?_nil, Option.map_none]
  | consistentHash ch => exact ⟨none, _, rfl, fun i hi => (by cases hi), fun _ => rfl⟩
  | stickyCid inner => exact ⟨none, _, rfl, fun i hi => (by cases hi), fun _ => rfl⟩

section Answer

variable {draw : ℕ} {pool : UpstreamPool F} {excludedIndices : List ℕ} {cand : Option ℕ} {lb0 : LoadBalancing}

/-- the read-only candidate, or nothing when the policy skips the read-only pick -/
abbrev ReadonlyIs (draw : ℕ) (pool : UpstreamPool F) (excludedIndices : List ℕ) (cand : Option ℕ)
    (lb0 : LoadBalancing) : Prop :=
  (if pool.alternateBackend.readonlyLbPick then
    (pool.loadBalancer.pickReadonly draw pool.lp).map fun r =>
      (r.1.filter fun index => !isExcluded index excludedIndices, r.2)
    else some (none, pool.loadBalancer)) = some (cand, lb0)

theorem chooseAlternateBackend_readonly {index : ℕ} (h : ReadonlyIs draw pool excludedIndices (some index) lb0) :
    chooseAlternateBackend draw pool excludedIndices = some (.select ⟨index, .loadBalancerReadonly⟩, lb0) := by
  unfold chooseAlternateBackend
  simp only [ReadonlyIs] at h
  simp only [h, Option.map_some]

theorem chooseAlternateBackend_fallback {index : ℕ} (h : ReadonlyIs draw pool excludedIndices none lb0)
    (hfb : pool.alternateBackend.healthyFallback = true)
    (hfind : (pool.lp.pool.healthy.find? fun index => !isExcluded index excludedIndices) = some index) :
    chooseAlternateBackend draw pool excludedIndices = some (.select ⟨index, .healthyFallback⟩, lb0) := by
  unfold chooseAlternateBackend
  simp only [ReadonlyIs] at h
  simp only [h, Option.map_some, hfb, if_true, hfind]

theorem chooseAlternateBackend_none (h : ReadonlyIs draw pool excludedIndices none lb0)
    (hnone : (if pool.alternateBackend.healthyFallback then
      pool.lp.pool.healthy.find? fun index => !isExcluded index excludedIndices else none) = none) :
    chooseAlternateBackend draw pool excludedIndices =
      some (.doNotSelect (if pool.lp.pool.healthy.length = 0 then .noHealthyBackends
        else .onlyExcludedBackendsHealthy), lb0) := by
  unfold chooseAlternateBackend
  simp only [ReadonlyIs] at h
  simp only [h, Option.map_some, hnone]
  split <;> rfl

end Answer

/-- what `choose_alternate_backend` does, in terms of `healthy`: it does not panic, chooses only listed indices that
are not excluded, with the fallback on it chooses whenever one is, and it answers `NoHealthyBackends` exactly when
`healthy` is empty -/
theorem chooseAlternateBackend_spec (draw : ℕ) (pool : UpstreamPool F) (excludedIndices : List ℕ)
    (hin : ∀ i ∈ pool.lp.pool.healthy, i < pool.lp.pool.backends.length) :
    ∃ d lb, chooseAlternateBackend draw pool excludedIndices = some (d, lb) ∧
      (∀ c, d = .select c → c.index ∈ pool.lp.pool.healthy ∧ c.index ∉ excludedIndices) ∧
      (pool.alternateBackend.healthyFallback = true →
        ((∃ c, d = .select c) ↔ ∃ i ∈ pool.lp.pool.healthy, i ∉ excludedIndices)) ∧
      (d = .doNotSelect .noHealthyBackends ↔ pool.lp.pool.healthy = []) := by
  obtain ⟨r, lb', hpick, hmem, hnil⟩ := pool.loadBalancer.pickReadonly_spec draw hin
  -- the read-only candidate: the pick unless it is excluded, or nothing when the policy skips it
  obtain ⟨cand, lb0, hread, hcand, hcnil⟩ : ∃ cand lb0, ReadonlyIs draw pool excludedIndices cand lb0 ∧
      (∀ i, cand = some i → i ∈ pool.lp.pool.healthy ∧ i ∉ excludedIndices) ∧
      (pool.lp.pool.healthy = [] → cand = none) := by
    unfold ReadonlyIs
    split
    · refine ⟨r.filter fun index => !isExcluded index excludedIndices, lb', by rw [hpick]; rfl, fun i hi => ?_, ?_⟩
      · obtain ⟨hr, hex⟩ := Option.filter_eq_some_iff.1 hi
        exact ⟨hmem i hr, by simpa [isExcluded] using hex⟩
      · intro h
        rw [hnil h]
        rfl
    · exact ⟨none, _, rfl, fun i hi => (by cases hi), fun _ => rfl⟩
  cases cand with
  | some index =>
    obtain ⟨hi, hex⟩ := hcand index rfl
    refine ⟨_, _, chooseAlternateBackend_readonly hread, fun c hc => ?_,
      fun _ => ⟨fun _ => ⟨index, hi, hex⟩, fun _ => ⟨_, rfl⟩⟩, ⟨fun h => (by cases h), fun h => ?_⟩⟩
    · cases hc
      exact ⟨hi, hex⟩
    · rw [h] at hi
      cases hi
  | none =>
    cases hfbv : (if pool.alternateBackend.healthyFallback then
        pool.lp.pool.healthy.find? fun index => !isExcluded index excludedIndices else none) with
    | some index =>
      -- the fallback finds a listed index that is not excluded
      have hfb : pool.alternateBackend.healthyFallback = true := by
        by_contra hfb
        rw [if_neg hfb] at hfbv
        cases hfbv
      rw [if_pos hfb] at hfbv
      have hi := List.mem_of_find?_eq_some hfbv
      have hex : index ∉ excludedIndices := by simpa [isExcluded] using List.find?_some hfbv
      refine ⟨_, _, chooseAlternateBackend_fallback hread hfb hfbv, fun c hc => ?_,
        fun _ => ⟨fun _ => ⟨index, hi, hex⟩, fun _ => ⟨_, rfl⟩⟩, ⟨fun h => (by cases h), fun h => ?_⟩⟩
      · cases hc
        exact ⟨hi, hex⟩
      · rw [h] at hi
        cases hi
    | none =>
      refine ⟨_, _, chooseAlternateBackend_none hread hfbv, fun c hc => (by cases hc), fun hfb => ?_, ?_⟩
      · -- with the fallback on, every listed index is excluded
        rw [if_pos hfb] at hfbv
        have hall : ∀ i ∈ pool.lp.pool.healthy, i ∈ excludedIndices := fun i hi => by
          simpa [isExcluded] using List.find?_eq_none.1 hfbv i hi
        exact ⟨fun ⟨c, hc⟩ => (by cases hc), fun ⟨i, hi, hex⟩ => absurd (hall i hi) hex⟩
      · by_cases hempty : pool.lp.pool.healthy = []
        · simp [hempty]
        · simp [hempty]

end Spec

/-- with the membership invariant, which every run keeps with debug assertions (`BackendPool.run_membershipInv`), the
choice is sound: it chooses only healthy indices that are not excluded, with the fallback on it chooses whenever one
exists, and it answers `NoHealthyBackends` exactly when no backend is healthy -/
theorem choice_sound_of_membership {F : Type} [LinearOrder F] [Add F] [Mul F] [NatCast F] (draw : ℕ)
    (pool : UpstreamPool F) (h : BackendPool.MembershipInv pool.lp.pool) (excludedIndices : List ℕ) :
    ∃ d lb, chooseAlternateBackend draw pool excludedIndices = some (d, lb) ∧
      (∀ c, d = .select c → BackendPool.HealthyIndex pool.lp.pool c.index ∧ c.index ∉ excludedIndices) ∧
      (pool.alternateBackend.healthyFallback = true →
        ((∃ c, d = .select c) ↔ ∃ i, BackendPool.HealthyIndex pool.lp.pool i ∧ i ∉ excludedIndices)) ∧
      (d = .doNotSelect .noHealthyBackends ↔ ∀ i, ¬ BackendPool.HealthyIndex pool.lp.pool i) := by
  obtain ⟨d, lb, hchoose, hsel, hfb, hnone⟩ := chooseAlternateBackend_spec draw pool excludedIndices h.lt_length
  refine ⟨d, lb, hchoose, fun c hc => ?_, fun hon => ?_, ?_⟩
  · obtain ⟨hi, hex⟩ := hsel c hc
    exact ⟨(h.mem_iff c.index).1 hi, hex⟩
  · rw [hfb hon]
    exact exists_congr fun i => by rw [h.mem_iff i]
  · rw [hnone, List.eq_nil_iff_forall_not_mem]
    exact forall_congr' fun i => by rw [h.mem_iff i]

/-- three backends with no active health check -/
def trioStates : List BackendState :=
  [BackendState.new ⟨"10.0.0.1:1", 1, none⟩, BackendState.new ⟨"10.0.0.2:1", 1, none⟩,
    BackendState.new ⟨"10.0.0.3:1", 1, none⟩]

/-- the least-connections upstream of those backends once three failures have ejected backend 0, with debug
assertions on, and with a request in flight on backend 2 -/
def ejectedTrioUpstream : UpstreamPool ℕ :=
  ⟨⟨(BackendPool.run true (BackendPool.newFromStates trioStates) BackendPool.threeFailures).getD
      (BackendPool.newFromStates trioStates), [⟨0, none⟩, ⟨0, none⟩, ⟨1, none⟩], by decide⟩,
    .leastConnections, .ofStrategy .leastConnections⟩

/-- with backend 1 excluded, the least-connections pick of backend 1 is dropped and the healthy fallback selects
backend 2, skipping the ejected backend 0 -/
theorem ejected_trio_choice_sound :
    chooseAlternateBackend 0 ejectedTrioUpstream [1] =
        some (.select ⟨2, .healthyFallback⟩, .leastConnections) ∧
      ∃ d lb, chooseAlternateBackend 0 ejectedTrioUpstream [1] = some (d, lb) ∧
        (∀ c, d = .select c → BackendPool.HealthyIndex ejectedTrioUpstream.lp.pool c.index ∧ c.index ∉ [1]) ∧
        (ejectedTrioUpstream.alternateBackend.healthyFallback = true →
          ((∃ c, d = .select c) ↔ ∃ i, BackendPool.HealthyIndex ejectedTrioUpstream.lp.pool i ∧ i ∉ [1])) ∧
        (d = .doNotSelect .noHealthyBackends ↔ ∀ i, ¬ BackendPool.HealthyIndex ejectedTrioUpstream.lp.pool i) := by
  obtain ⟨p, hrun⟩ : ∃ p, BackendPool.run true (BackendPool.newFromStates trioStates) BackendPool.threeFailures =
      some p := Option.isSome_iff_exists.1 (by decide)
  have hpool : ejectedTrioUpstream.lp.pool = p := by
    change (BackendPool.run true (BackendPool.newFromStates trioStates) BackendPool.threeFailures).getD
      (BackendPool.newFromStates trioStates) = p
    rw [hrun, Option.getD_some]
  have hinv : BackendPool.MembershipInv ejectedTrioUpstream.lp.pool := by
    rw [hpool]
    exact BackendPool.run_membershipInv (by decide) (by decide) hrun
  exact ⟨by decide, choice_sound_of_membership 0 ejectedTrioUpstream hinv [1]⟩

/-! ## The release profile chooses an ejected backend -/

/-- the lone passive backend after three failures in the release profile: ejected, and still listed in `healthy` -/
def releaseEjected : BackendPool :=
  (BackendPool.run false BackendPool.loneBackend BackendPool.threeFailures).getD BackendPool.loneBackend

/-- the upstream pool of that one backend after three `mark_backend_failure_from_active_check(0)`: the strategy and
policy `from_runtime_upstream` builds, the counters of a backend with no request, and the pool the failures left -/
def ejectedUpstream (strategy : RuntimeLoadBalancingStrategy) : Option (UpstreamPool ℕ) :=
  (LoadBalancing.fromRuntimeStrategy strategy).map fun lb =>
    ⟨⟨releaseEjected, [⟨0, none⟩], by decide⟩, lb, .ofStrategy strategy⟩

theorem release_choice_picks_ejected_backend :
    BackendPool.run false BackendPool.loneBackend BackendPool.threeFailures = some releaseEjected ∧
      (∀ i, ¬ BackendPool.HealthyIndex releaseEjected i) ∧
      ∀ strategy, strategy ≠ .other →
        (UpstreamPool.fromRuntimeUpstream (F := ℕ) strategy [⟨"10.0.0.1:1", 1, none⟩]).map
            (fun up => (up.lp.pool, up.lp.load, up.loadBalancer, up.alternateBackend)) =
          (ejectedUpstream strategy).map
            (fun up => (BackendPool.loneBackend, up.lp.load, up.loadBalancer, up.alternateBackend)) ∧
        ∀ draw, ∃ mode, ((ejectedUpstream strategy).bind fun up => chooseAlternateBackend draw up []).map Prod.fst =
          some (.select ⟨0, mode⟩) := by
  have hrun : BackendPool.run false BackendPool.loneBackend BackendPool.threeFailures = some releaseEjected := by
    decide
  have hhealthy : releaseEjected.healthy = [0] := by decide
  have hstates : releaseEjected.backends.map BackendState.isHealthy = [false] := by decide
  refine ⟨hrun, fun i ⟨b, hb, hh⟩ => ?_, fun strategy hs => ⟨?_, fun draw => ?_⟩⟩
  · -- the only backend is ejected
    have hmap : (releaseEjected.backends.map BackendState.isHealthy)[i]? = some true := by
      rw [List.getElem?_map, hb, Option.map_some, hh]
    rw [hstates] at hmap
    cases i with
    | zero => cases hmap
    | succ i => cases hmap
  · cases strategy <;> rfl
  · cases strategy with
    | random =>
      refine ⟨.loadBalancerReadonly, ?_⟩
      simp [ejectedUpstream, LoadBalancing.fromRuntimeStrategy,
        chooseAlternateBackend, LoadBalancing.pickReadonly, Random.pickReadonly, hhealthy, isExcluded,
        RuntimeAlternateBackendPolicy.ofStrategy, RuntimeLoadBalancingStrategy.supportsReadonlyAlternatePick, Nat.mod_one, Option.filter_some]
    | other => exact absurd rfl hs
    | roundRobin => exact ⟨.loadBalancerReadonly, rfl⟩
    | leastConnections => exact ⟨.loadBalancerReadonly, rfl⟩
    | latencyAware => exact ⟨.loadBalancerReadonly, rfl⟩
    | consistentHash => exact ⟨.healthyFallback, rfl⟩
    | stickyCid => exact ⟨.healthyFallback, rfl⟩

end Spooky.Lb
