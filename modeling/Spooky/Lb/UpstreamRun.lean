/-
The upstream pool over whole runs of its calls (`crates/lb/src/upstream_pool.rs`): picks with and without
`begin_request`, the edge's request accounting (`begin_request_if_healthy`, `begin_request_for_accounting`,
`finish_request`) and the health updates, in any order, with debug assertions (the test profile, where the membership
cache is kept: `Spooky.Lb.PoolInvariants`).

The consistent-hash strategies cache a ring. Every ring a pick builds is sorted and names only healthy backends of the
pool, and the number of backends never changes, so every cache stays sorted and names only backends (`RingInv`). A
cached ring is read without a rebuild while its epoch is the pool's; it holds the fresh ring then unless
`membership_epoch` has wrapped around to it (`Coherent`), and only then does the pick read the pool's health.

Results:
- `LoadBalancing.pick_spec`: from a pool that meets the membership invariant, every strategy's pick returns, selects a
  backend of the pool, a healthy one unless it reads a ring cache that is not coherent, and a strategy that reads
  `healthy` itself selects nothing only when no backend is healthy.
- `run_picks_sound`: from a fresh upstream, along every run of the upstream's calls with clock values that do not go
  back, no call panics, and a pick at any later clock value returns with the guarantees above and counts one more
  active request on the backend it selects and on no other.
-/
import Spooky.Lb.Primary
import Spooky.Lib.Fallible

namespace Spooky.Lb

/-! ## Ring caches -/

namespace ConsistentHash

/-- what a ring cache keeps: sorted by hash, and naming only backends of a pool of `n` -/
structure RingInv (n : ℕ) (ch : ConsistentHash) : Prop where
  sorted : ch.ring.Pairwise fun a b => a.1.toNat ≤ b.1.toNat
  lt : ∀ e ∈ ch.ring, e.2 < n

theorem ringInv_new (n replicas : ℕ) : RingInv n (new replicas) :=
  ⟨List.Pairwise.nil, fun _ he => by cases he⟩

theorem freshRing_of_inRange (replicas : ℕ) {pool : BackendPool}
    (hin : ∀ i ∈ pool.healthy, i < pool.backends.length) : ∃ ring, freshRing replicas pool = some ring := by
  rw [freshRing_eq, if_pos hin]
  exact ⟨_, rfl⟩

/-- a pick from a pool whose healthy indices are in range returns, keeps the cache sorted and naming only backends,
and selects an entry of the cache it leaves -/
theorem pick_ringInv {ch : ConsistentHash} {pool : BackendPool} (key : String)
    (hin : ∀ i ∈ pool.healthy, i < pool.backends.length) (hr : RingInv pool.backends.length ch) :
    ∃ ch' r, ch.pick key pool = some (ch', r) ∧ RingInv pool.backends.length ch' ∧
      ∀ i, r = some i → ∃ e ∈ ch'.ring, e.2 = i := by
  unfold pick
  by_cases hempty : pool.backends.isEmpty
  · exact ⟨ch, none, by rw [if_pos hempty], hr, fun i hi => by cases hi⟩
  rw [if_neg hempty]
  dsimp only
  -- the cache the lookup reads: rebuilt into the fresh ring, or kept
  obtain ⟨ring, hfresh⟩ := freshRing_of_inRange ch.replicas hin
  obtain ⟨c1, hc1, hinv1⟩ : ∃ c1, (if ch.ringEpoch ≠ some pool.membershipEpoch then
      (ch.rebuildRing pool).map fun ch =>
        { ch with ringEpoch := some pool.membershipEpoch, ringRebuilds := ch.ringRebuilds + 1 }
      else some ch) = some c1 ∧ RingInv pool.backends.length c1 := by
    split
    · exact ⟨{ ch with ring := ring, ringEpoch := some pool.membershipEpoch, ringRebuilds := ch.ringRebuilds + 1 },
        by simp [rebuildRing, hfresh], ⟨freshRing_sorted hfresh, fun e he => hin _ (mem_freshRing hfresh he).1⟩⟩
    · exact ⟨ch, rfl, hr⟩
  rw [hc1, Option.bind_some]
  split
  · exact ⟨c1, none, rfl, hinv1, fun i hi => by cases hi⟩
  · rename_i hne
    obtain ⟨e, he, hget⟩ := lookup_mem hinv1.sorted (by simpa using hne) (hash64 (Text.utf8 key))
    rw [hget]
    exact ⟨c1, some e.2, rfl, hinv1, fun i hi => ⟨e, he, Option.some.inj hi⟩⟩

/-- a pick on a coherent cache selects a healthy index -/
theorem pick_mem_healthy {ch ch' : ConsistentHash} {pool : BackendPool} {key : String} {i : ℕ}
    (hin : ∀ i ∈ pool.healthy, i < pool.backends.length)
    (hc : ∀ ring, freshRing ch.replicas pool = some ring → ch.Coherent pool ring)
    (h : ch.pick key pool = some (ch', some i)) : i ∈ pool.healthy := by
  by_cases hempty : pool.backends = []
  · simp [pick, hempty] at h
  obtain ⟨ring, hfresh⟩ := freshRing_of_inRange ch.replicas hin
  obtain ⟨ch'', -, -, -, hpick⟩ := pick_coherent key hempty hfresh (hc ring hfresh)
  rw [hpick, Option.some.injEq, Prod.mk.injEq] at h
  -- the selected entry is one of the fresh ring, a replica of a healthy index
  obtain ⟨e, he, hei⟩ := Option.map_eq_some_iff.1 h.2
  rw [← hei]
  exact (mem_freshRing hfresh (List.mem_of_getElem? he)).1

end ConsistentHash

/-! ## One pick of each strategy -/

theorem getElem?_mod_mem {l : List ℕ} {x i : ℕ} (h : l[x % l.length]? = some i) : i ∈ l :=
  List.mem_of_getElem? h

theorem getElem?_mod_eq_none_iff (l : List ℕ) (x : ℕ) : l[x % l.length]? = none ↔ l = [] := by
  rw [List.getElem?_eq_none_iff]
  constructor
  · intro h
    by_contra hne
    exact absurd h (not_le.2 (Nat.mod_lt _ (List.length_pos_iff.2 hne)))
  · rintro rfl
    simp

theorem RoundRobin.pick_fst (rr : RoundRobin) (pool : BackendPool) :
    (rr.pick pool).1 = pool.healthy[rr.next % pool.healthy.length]? := by
  unfold RoundRobin.pick
  split
  · rename_i hempty
    rw [List.isEmpty_iff.1 hempty]
    rfl
  · rfl

theorem Random.pickReadonly_eq (draw : ℕ) (pool : BackendPool) :
    Random.pickReadonly draw pool = pool.healthy[draw % pool.healthy.length]? := by
  unfold Random.pickReadonly
  split
  · rename_i hempty
    rw [List.isEmpty_iff.1 hempty]
    rfl
  · rfl

namespace LoadBalancing

/-- the ring caches of the consistent-hash strategies are sorted and name only backends of a pool of `n` -/
def RingInv (n : ℕ) : LoadBalancing → Prop
  | .consistentHash ch => ch.RingInv n
  | .stickyCid inner => inner.RingInv n
  | _ => True

/-- the ring caches of the consistent-hash strategies hold the pool's fresh ring whenever their epoch is the pool's -/
def Coherent (pool : BackendPool) : LoadBalancing → Prop
  | .consistentHash ch => ∀ ring, ConsistentHash.freshRing ch.replicas pool = some ring → ch.Coherent pool ring
  | .stickyCid inner =>
    ∀ ring, ConsistentHash.freshRing inner.replicas pool = some ring → inner.Coherent pool ring
  | _ => True

/-- the strategies whose pick reads `healthy` itself rather than a ring cache, for a request's key -/
def readsHealthy (key : String) : LoadBalancing → Bool
  | .consistentHash _ => false
  | .stickyCid _ => key.isEmpty
  | _ => true

theorem ringInv_fromRuntimeStrategy (n : ℕ) {strategy : RuntimeLoadBalancingStrategy} {lb : LoadBalancing}
    (h : fromRuntimeStrategy strategy = some lb) : lb.RingInv n := by
  cases strategy <;> cases h <;> first | trivial | exact ConsistentHash.ringInv_new n _

variable {F : Type} [LinearOrder F] [Add F] [Mul F] [NatCast F]

/-- what a pick does, for every strategy, from a pool whose healthy indices are in range: it returns; it keeps the
ring caches' invariant; it selects a backend of the pool, a healthy one unless it reads a ring cache that is not
coherent; and a strategy that reads `healthy` selects nothing exactly when nothing is healthy -/
theorem pick_spec (draw : ℕ) (key : String) {lb : LoadBalancing} {lp : LoadedPool F}
    (hin : ∀ i ∈ lp.pool.healthy, i < lp.pool.backends.length) (hr : lb.RingInv lp.pool.backends.length) :
    ∃ r lb', lb.pick draw key lp = some (r, lb') ∧ lb'.RingInv lp.pool.backends.length ∧
      (∀ i, r = some i → i < lp.pool.backends.length) ∧
      (lb.Coherent lp.pool → ∀ i, r = some i → i ∈ lp.pool.healthy) ∧
      (lb.readsHealthy key = true → (r = none ↔ lp.pool.healthy = [])) := by
  cases lb with
  | roundRobin rr =>
    refine ⟨_, .roundRobin (rr.pick lp.pool).2, rfl, trivial, fun i hi => hin i ?_, fun _ i hi => ?_, fun _ => ?_⟩
    · rw [RoundRobin.pick_fst] at hi
      exact getElem?_mod_mem hi
    · rw [RoundRobin.pick_fst] at hi
      exact getElem?_mod_mem hi
    · rw [RoundRobin.pick_fst]
      exact getElem?_mod_eq_none_iff _ _
  | random =>
    refine ⟨_, .random, rfl, trivial, fun i hi => hin i ?_, fun _ i hi => ?_, fun _ => ?_⟩
    · rw [Random.pickReadonly_eq] at hi
      exact getElem?_mod_mem hi
    · rw [Random.pickReadonly_eq] at hi
      exact getElem?_mod_mem hi
    · rw [Random.pickReadonly_eq]
      exact getElem?_mod_eq_none_iff _ _
  | leastConnections =>
    have h := LeastConnections.pickReadonly_eq hin
    refine ⟨_, .leastConnections, by rw [pick, h]; rfl, trivial, fun i hi => hin i (LeastConnections.pickReadonly_mem (hi ▸ h)),
      fun _ i hi => LeastConnections.pickReadonly_mem (hi ▸ h), fun _ => ?_⟩
    rw [Option.map_eq_none_iff, List.min?_eq_none_iff, List.map_eq_nil_iff]
  | latencyAware =>
    have h := LatencyAware.pickReadonly_eq hin
    refine ⟨_, .latencyAware, by rw [pick, h]; rfl, trivial, fun i hi => hin i (LatencyAware.pickReadonly_mem (hi ▸ h)),
      fun _ i hi => LatencyAware.pickReadonly_mem (hi ▸ h), fun _ => ?_⟩
    -- nothing is selected exactly when there is neither an unsampled nor a sampled key
    rw [← (LoadedPool.keys_eq_nil : lp.unsampledKeys _ = [] ∧ lp.sampledKeys _ = [] ↔ _)]
    cases hu : (lp.unsampledKeys lp.pool.healthy).min? with
    | some k =>
      have hne : lp.unsampledKeys lp.pool.healthy ≠ [] := fun hnil => by
        rw [hnil] at hu
        cases hu
      simp [hne]
    | none =>
      rw [List.min?_eq_none_iff.1 hu, Option.map_eq_none_iff, List.min?_eq_none_iff]
      simp
  | consistentHash ch =>
    obtain ⟨ch', r, hpick, hinv, hsel⟩ := ch.pick_ringInv key hin hr
    refine ⟨r, .consistentHash ch', by rw [pick, hpick]; rfl, hinv, fun i hi => ?_, fun hc i hi => ?_, fun hreads => by cases hreads⟩
    · obtain ⟨e, he, rfl⟩ := hsel i hi
      exact hinv.lt e he
    · exact ConsistentHash.pick_mem_healthy hin hc (hi ▸ hpick)
  | stickyCid inner =>
    by_cases hkey : key.isEmpty
    · -- an empty key takes the first healthy index
      refine ⟨_, .stickyCid inner, by rw [pick, if_pos hkey], hr, fun i hi => hin i (List.mem_of_mem_head? hi),
        fun _ i hi => List.mem_of_mem_head? hi, fun _ => List.head?_eq_none_iff⟩
    · obtain ⟨ch', r, hpick, hinv, hsel⟩ := inner.pick_ringInv key hin hr
      refine ⟨r, .stickyCid ch', by rw [pick, if_neg hkey, hpick]; rfl, hinv, fun i hi => ?_, fun hc i hi => ?_,
        fun hreads => absurd hreads hkey⟩
      · obtain ⟨e, he, rfl⟩ := hsel i hi
        exact hinv.lt e he
      · exact ConsistentHash.pick_mem_healthy hin hc (hi ▸ hpick)

end LoadBalancing

/-! ## The calls of the upstream pool -/

/-- the calls the edge makes on an upstream pool, each with the clock value it reads, if any -/
inductive UpstreamOp (F : Type) where
  | pick (call : PickCall)
  | pickWithoutBegin (call : PickCall)
  | beginRequestIfHealthy (index : ℕ)
  | beginRequestForAccounting (index : ℕ)
  | finishRequest (index : ℕ) (latency : F) (status : Option ℕ)
  | markBackendHealthy (now index : ℕ)
  | markBackendFailureFromActiveCheck (now index : ℕ)
  | markBackendRequestFailure (now index : ℕ) (reason : HealthFailureReason)

namespace UpstreamOp

variable {F : Type}

/-- the clock value of a call that reads the clock -/
def clock : UpstreamOp F → Option ℕ
  | .pick call | .pickWithoutBegin call => some call.now
  | .markBackendHealthy now _ | .markBackendFailureFromActiveCheck now _ | .markBackendRequestFailure now _ _ =>
    some now
  | .beginRequestIfHealthy _ | .beginRequestForAccounting _ | .finishRequest .. => none

end UpstreamOp

namespace UpstreamPool

variable {F : Type} [LinearOrder F] [Add F] [Mul F] [NatCast F] [Sub F] [OfScientific F]

/-- one call on the upstream pool, its answer dropped -/
def step (debug : Bool) (up : UpstreamPool F) : UpstreamOp F → Option (UpstreamPool F)
  | .pick call => (up.pick debug call.now call.draw call.key).map Prod.fst
  | .pickWithoutBegin call => (up.pickWithoutBegin debug call.now call.draw call.key).map Prod.fst
  | .beginRequestIfHealthy index => some (up.beginRequestIfHealthy index).1
  | .beginRequestForAccounting index => some (up.beginRequestForAccounting index)
  | .finishRequest index latency status => some (up.finishRequest index latency status)
  | .markBackendHealthy now index => (up.markBackendHealthy debug now index).map Prod.fst
  | .markBackendFailureFromActiveCheck now index =>
    (up.markBackendFailureFromActiveCheck debug now index).map Prod.fst
  | .markBackendRequestFailure now index reason =>
    (up.markBackendRequestFailure debug now index reason).map Prod.fst

/-- the upstream pool after a run of calls, or `none` if one of them panics -/
def run (debug : Bool) (up : UpstreamPool F) (ops : List (UpstreamOp F)) : Option (UpstreamPool F) :=
  Runs.run (step debug) up ops

end UpstreamPool

/-! ## The invariant of a run -/

/-- what every upstream pool a run reaches keeps, with debug assertions, for the clock value of its last call -/
structure UpstreamInv {F : Type} (clock : ℕ) (up : UpstreamPool F) : Prop where
  pool : BackendPool.PoolInv true clock up.lp.pool
  rings : up.loadBalancer.RingInv up.lp.pool.backends.length

namespace UpstreamInv

variable {F : Type} {c : ℕ} {up : UpstreamPool F}

theorem beginRequestForAccounting (h : UpstreamInv c up) (index : ℕ) :
    UpstreamInv c (up.beginRequestForAccounting index) :=
  ⟨h.pool, h.rings⟩

theorem finishRequest [Add F] [Mul F] [Sub F] [OfScientific F] (h : UpstreamInv c up) (index : ℕ) (latency : F)
    (status : Option ℕ) : UpstreamInv c (up.finishRequest index latency status) :=
  ⟨h.pool, h.rings⟩

theorem withPool (h : UpstreamInv c up) {c' : ℕ} {p : BackendPool} (hl : p.backends.length = up.lp.pool.backends.length)
    (hp : BackendPool.PoolInv true c' p) : UpstreamInv c' (up.withPool p hl) :=
  ⟨hp, by simpa [hl] using h.rings⟩

theorem mono (h : UpstreamInv c up) {c' : ℕ} (hc : c ≤ c') : UpstreamInv c' up := ⟨h.pool.mono hc, h.rings⟩

theorem healthyIndex_iff (h : UpstreamInv c up) (i : ℕ) : i ∈ up.lp.pool.healthy ↔ BackendPool.HealthyIndex up.lp.pool i :=
  h.pool.cache.mem_iff i

end UpstreamInv

namespace UpstreamPool

variable {F : Type}

/-- a call on the backend pool that the pool's step takes, through the upstream pool -/
theorem throughPool_of_map {β : Type} {f : BackendPool → Option (BackendPool × β)} (hf) {up : UpstreamPool F}
    {p : BackendPool} (h : (f up.lp.pool).map Prod.fst = some p) :
    ∃ hl, (up.throughPool f hf).map Prod.fst = some (up.withPool p hl) := by
  obtain ⟨r, hr, rfl⟩ := Option.map_eq_some_iff.1 h
  exact ⟨hf _ _ hr, by rw [(throughPool_eq_some.2 ⟨r, hf _ _ hr, hr, rfl⟩)]; rfl⟩

/-- a health update at a clock value no earlier than the last keeps the invariant -/
theorem throughPool_inv {β : Type} {f : BackendPool → Option (BackendPool × β)} {hf} {up : UpstreamPool F} {c : ℕ}
    (h : UpstreamInv c up) (op : PoolOp) (hstep : BackendPool.step true up.lp.pool op = (f up.lp.pool).map Prod.fst)
    (hc : c ≤ op.now) : ∃ up', (up.throughPool f hf).map Prod.fst = some up' ∧ UpstreamInv op.now up' := by
  obtain ⟨p', hs, hinv⟩ := BackendPool.step_inv h.pool op hc
  obtain ⟨hl, hthrough⟩ := throughPool_of_map hf (hstep ▸ hs)
  exact ⟨_, hthrough, h.withPool hl hinv⟩

variable [LinearOrder F] [Add F] [Mul F] [NatCast F]

/-- `pick_without_begin` at a clock value no earlier than the last: it returns, keeps the invariant, and selects as
`LoadBalancing.pick_spec` says, on the pool after `reconcile_readmit` -/
theorem pickWithoutBegin_sound {c now : ℕ} {up : UpstreamPool F} (h : UpstreamInv c up) (hc : c ≤ now) (draw : ℕ)
    (key : String) :
    ∃ up' r, up.pickWithoutBegin true now draw key = some (up', r) ∧ UpstreamInv now up' ∧ up'.lp.load = up.lp.load ∧
      (∀ i, r = some i → i < up'.lp.pool.backends.length) ∧
      (up.loadBalancer.Coherent up'.lp.pool → ∀ i, r = some i → BackendPool.HealthyIndex up'.lp.pool i) ∧
      (up.loadBalancer.readsHealthy key = true → (r = none ↔ ∀ i, ¬ BackendPool.HealthyIndex up'.lp.pool i)) := by
  -- `reconcile_readmit` keeps the invariant at the new clock value
  obtain ⟨p1, hrec, hinv1⟩ := BackendPool.reconcileReadmitAt_inv h.pool hc
  have hl := BackendPool.length_reconcileReadmitAt hrec
  have hup1 : up.reconcileReadmit true now = some (up.withPool p1 hl) := reconcileReadmit_eq_some.2 ⟨p1, hl, hrec, rfl⟩
  have h1 : UpstreamInv now (up.withPool p1 hl) := h.withPool hl hinv1
  -- then the strategy picks on the reconciled pool
  obtain ⟨r, lb', hpick, hrings, hlt, hmem, hnone⟩ :=
    LoadBalancing.pick_spec draw key h1.pool.cache.lt_length h1.rings
  have hmember : ∀ i, i ∈ p1.healthy ↔ BackendPool.HealthyIndex p1 i := h1.healthyIndex_iff
  refine ⟨{ up.withPool p1 hl with loadBalancer := lb' }, r, pickWithoutBegin_eq_some.2 ⟨_, _, hup1, hpick, rfl⟩,
    ⟨hinv1, hrings⟩, rfl, hlt, fun hc i hi => (hmember i).1 (hmem hc i hi), fun hreads => ?_⟩
  rw [hnone hreads, List.eq_nil_iff_forall_not_mem]
  exact forall_congr' fun i => not_congr (hmember i)

/-- `pick` at a clock value no earlier than the last: as `pick_without_begin`, and then it counts one more active
request on the backend it selects and on no other -/
theorem pick_sound {c now : ℕ} {up : UpstreamPool F} (h : UpstreamInv c up) (hc : c ≤ now) (draw : ℕ) (key : String) :
    ∃ up' r, up.pick true now draw key = some (up', r) ∧ UpstreamInv now up' ∧
      (∀ i, r = some i → i < up'.lp.pool.backends.length) ∧
      (up.loadBalancer.Coherent up'.lp.pool → ∀ i, r = some i → BackendPool.HealthyIndex up'.lp.pool i) ∧
      (up.loadBalancer.readsHealthy key = true → (r = none ↔ ∀ i, ¬ BackendPool.HealthyIndex up'.lp.pool i)) ∧
      ∀ j, up'.lp.load[j]?.map BackendLoad.activeRequests =
        up.lp.load[j]?.map fun b => b.activeRequests + if r = some j then 1 else 0 := by
  obtain ⟨up1, r, hwb, hinv, -, hlt, hmem, hnone⟩ := pickWithoutBegin_sound h hc draw key
  have hpick := pick_of_pickWithoutBegin hwb
  -- `begin_request` touches neither the backend pool nor the strategy
  have hpool : (r.elim up1 up1.beginRequestForAccounting).lp.pool = up1.lp.pool := by cases r <;> rfl
  have hinv' : UpstreamInv now (r.elim up1 up1.beginRequestForAccounting) := by
    cases r with
    | none => exact hinv
    | some i => exact hinv.beginRequestForAccounting i
  refine ⟨_, r, hpick, hinv', hpool ▸ hlt, hpool ▸ hmem, hpool ▸ hnone, pick_activeRequests hpick⟩

variable [Sub F] [OfScientific F]

theorem step_inv {c : ℕ} {up : UpstreamPool F} (h : UpstreamInv c up) (op : UpstreamOp F)
    (hc : ∀ t, op.clock = some t → c ≤ t) : ∃ up', up.step true op = some up' ∧ UpstreamInv (op.clock.getD c) up' := by
  cases op with
  | pick call =>
    obtain ⟨up', r, hpick, hinv, -⟩ := pick_sound h (hc call.now rfl) call.draw call.key
    exact ⟨up', by rw [step, hpick]; rfl, hinv⟩
  | pickWithoutBegin call =>
    obtain ⟨up', r, hpick, hinv, -⟩ := pickWithoutBegin_sound h (hc call.now rfl) call.draw call.key
    exact ⟨up', by rw [step, hpick]; rfl, hinv⟩
  | beginRequestIfHealthy index =>
    refine ⟨_, rfl, ?_⟩
    unfold beginRequestIfHealthy
    split
    · exact h.beginRequestForAccounting index
    · exact h
  | beginRequestForAccounting index => exact ⟨_, rfl, h.beginRequestForAccounting index⟩
  | finishRequest index latency status => exact ⟨_, rfl, h.finishRequest index latency status⟩
  | markBackendHealthy now index =>
    exact throughPool_inv h (.markSuccess now index) rfl (hc now rfl)
  | markBackendFailureFromActiveCheck now index =>
    exact throughPool_inv h (.markFailure now index) rfl (hc now rfl)
  | markBackendRequestFailure now index reason =>
    exact throughPool_inv h (.markRequestFailure now index reason) rfl (hc now rfl)

/-- a run whose clock values do not go back from `c` does not panic and keeps the invariant, for a clock value that
is `c` or one of the run's -/
theorem run_inv (ops : List (UpstreamOp F)) {c : ℕ} {up : UpstreamPool F} (h : UpstreamInv c up)
    (hc : ∀ t ∈ ops.filterMap UpstreamOp.clock, c ≤ t) (hord : (ops.filterMap UpstreamOp.clock).Pairwise (· ≤ ·)) :
    ∃ up' c', up.run true ops = some up' ∧ UpstreamInv c' up' ∧ (c' = c ∨ c' ∈ ops.filterMap UpstreamOp.clock) := by
  induction ops generalizing up c with
  | nil => exact ⟨up, c, rfl, h, Or.inl rfl⟩
  | cons op ops ih =>
    obtain ⟨up1, hstep, h1⟩ := step_inv h op fun t ht => hc t (by simp [ht])
    have hrun : up.run true (op :: ops) = up1.run true ops := Runs.run_cons_of_step hstep ops
    cases hop : op.clock with
    | none =>
      -- a call that reads no clock leaves the clock value as it was
      rw [List.filterMap_cons_none hop] at hc hord ⊢
      rw [hop, Option.getD_none] at h1
      obtain ⟨up', c', hrun', h', hc'⟩ := ih h1 hc hord
      exact ⟨up', c', hrun.trans hrun', h', hc'⟩
    | some t =>
      rw [List.filterMap_cons_some hop] at hc hord ⊢
      rw [hop, Option.getD_some] at h1
      rw [List.pairwise_cons] at hord
      obtain ⟨up', c', hrun', h', hc'⟩ := ih h1 hord.1 hord.2
      refine ⟨up', c', hrun.trans hrun', h', Or.inr ?_⟩
      rcases hc' with rfl | hc'
      · exact List.mem_cons_self
      · exact List.mem_cons_of_mem _ hc'

end UpstreamPool

/-! ## Every pick of every run -/

theorem upstreamInv_fromRuntimeUpstream {F : Type} {strategy : RuntimeLoadBalancingStrategy} {backends : List Backend}
    {up : UpstreamPool F} (h : UpstreamPool.fromRuntimeUpstream strategy backends = some up) : UpstreamInv 0 up := by
  obtain ⟨lb, hlb, rfl⟩ := Option.map_eq_some_iff.1 h
  refine ⟨BackendPool.poolInv_newFromStates true fun b hb _ => ?_, LoadBalancing.ringInv_fromRuntimeStrategy _ hlb⟩
  -- every backend starts healthy
  obtain ⟨backend, -, rfl⟩ := List.mem_map.1 hb
  exact BackendState.isHealthy_new backend

/-- from a fresh upstream, along every run of the upstream's calls in any order with clock values that do not go back,
with debug assertions: no call panics, and a pick at any clock value no earlier than the run's returns; it selects a
backend of the pool, a healthy one unless it reads a ring cache that is not coherent; a strategy that reads `healthy`
selects nothing only when no backend is healthy; and it counts one more active request on the backend it selects and
on no other -/
theorem run_picks_sound {F : Type} [LinearOrder F] [Add F] [Mul F] [NatCast F] [Sub F] [OfScientific F]
    (strategy : RuntimeLoadBalancingStrategy) (backends : List Backend) {up0 : UpstreamPool F}
    (hup0 : UpstreamPool.fromRuntimeUpstream strategy backends = some up0) (ops : List (UpstreamOp F))
    (hord : (ops.filterMap UpstreamOp.clock).Pairwise (· ≤ ·)) :
    ∃ up, up0.run true ops = some up ∧
      ∀ now, (∀ t ∈ ops.filterMap UpstreamOp.clock, t ≤ now) → ∀ draw key,
        ∃ up' r, up.pick true now draw key = some (up', r) ∧
          (∀ i, r = some i → i < up'.lp.pool.backends.length) ∧
          (up.loadBalancer.Coherent up'.lp.pool → ∀ i, r = some i → BackendPool.HealthyIndex up'.lp.pool i) ∧
          (up.loadBalancer.readsHealthy key = true → (r = none ↔ ∀ i, ¬ BackendPool.HealthyIndex up'.lp.pool i)) ∧
          ∀ j, up'.lp.load[j]?.map BackendLoad.activeRequests =
            up.lp.load[j]?.map fun b => b.activeRequests + if r = some j then 1 else 0 := by
  obtain ⟨up, c, hrun, hinv, hc⟩ :=
    UpstreamPool.run_inv ops (upstreamInv_fromRuntimeUpstream hup0) (fun _ _ => Nat.zero_le _) hord
  refine ⟨up, hrun, fun now hnow draw key => ?_⟩
  -- the invariant holds at the last clock value of the run, which the pick does not precede
  have hcnow : c ≤ now := by
    rcases hc with rfl | hc
    · exact Nat.zero_le _
    · exact hnow c hc
  obtain ⟨up', r, hpick, -, hlt, hmem, hnone, hload⟩ := UpstreamPool.pick_sound hinv hcnow draw key
  exact ⟨up', r, hpick, hlt, hmem, hnone, hload⟩

/-- a health check ejects the only backend of a round-robin upstream, a success re-admits it, and a request is
accounted in between -/
def ejectAndReadmit : List (UpstreamOp ℚ) :=
  [.pick ⟨0, 0, ""⟩, .markBackendFailureFromActiveCheck 1 0, .finishRequest 0 (1 / 2) (some 200),
    .markBackendFailureFromActiveCheck 2 0, .markBackendFailureFromActiveCheck 3 0, .markBackendHealthy 4 0]

theorem ejectAndReadmit_picks_sound :
    ∃ up0 up, UpstreamPool.fromRuntimeUpstream .roundRobin [⟨"10.0.0.1:1", 1, none⟩] = some up0 ∧
      up0.run true ejectAndReadmit = some up ∧
      ∀ now, (∀ t ∈ ejectAndReadmit.filterMap UpstreamOp.clock, t ≤ now) → ∀ draw key,
        ∃ up' r, up.pick true now draw key = some (up', r) ∧
          (∀ i, r = some i → i < up'.lp.pool.backends.length) ∧
          (up.loadBalancer.Coherent up'.lp.pool → ∀ i, r = some i → BackendPool.HealthyIndex up'.lp.pool i) ∧
          (up.loadBalancer.readsHealthy key = true → (r = none ↔ ∀ i, ¬ BackendPool.HealthyIndex up'.lp.pool i)) ∧
          ∀ j, up'.lp.load[j]?.map BackendLoad.activeRequests =
            up.lp.load[j]?.map fun b => b.activeRequests + if r = some j then 1 else 0 := by
  obtain ⟨up, hrun, hpicks⟩ := run_picks_sound .roundRobin [⟨"10.0.0.1:1", 1, none⟩] rfl ejectAndReadmit (by decide)
  exact ⟨_, up, rfl, hrun, hpicks⟩

end Spooky.Lb
