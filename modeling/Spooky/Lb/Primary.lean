/-
The primary pick of an upstream pool (`UpstreamPool::pick` and `pick_without_begin` in
`crates/lb/src/upstream_pool.rs`) through the mutating pick of its strategy (`LoadBalancing::pick` in
`crates/lb/src/load_balancing.rs`, `crates/lb/src/algorithms/*.rs`), and the upstream's other calls that reach its
backend pool.

A pick first runs `reconcile_readmit` on the pool, then the strategy's pick, and `pick` then counts one more active
request on the selected backend. Round-robin reads `healthy[next % len]` and steps `next`; random, least-connections
and latency-aware pick as their read-only picks do; sticky-CID answers the first healthy index for an empty key and
otherwise asks its consistent-hash ring. The upstream's health updates forward to the pool's `mark_*` calls; none of
them changes the number of backends (`length_markSuccess`, `length_reconcileReadmitAt`), so the load counters stay
one per backend.

The round-robin counter wraps at `usize::MAX` (`wrapping_add`); the round-robin results are for runs during which it
does not reach it. The counts of active requests are natural numbers: their `fetch_add` wraps at `usize::MAX` too
(`beginRequestUsize`), and is the natural successor below it (`beginRequestUsize_eq`); a wrap takes that many requests
in flight on one backend at once.

Results:
- `pickRun_activeRequests`: along every run of picks, each backend's count of active requests grows by exactly the
  number of picks that selected it.
- `roundRobin_fair`: over a run of round-robin picks while no re-admission falls due, the answers read `healthy`
  round and round from the counter; each healthy backend is picked `k / n` or `k / n + 1` times in `k` picks and
  exactly once in any `n` consecutive ones, and its active requests grow by as many.
-/
import Spooky.Lb.Alternate
import Spooky.Lib.Rotation

namespace Spooky.Lb

open Counters

/-! ## The backends a call leaves -/

namespace BackendPool

variable {p : BackendPool} {debug : Bool} {now index : ℕ}

theorem length_markSuccess {r : BackendPool × Option HealthTransition} (h : p.markSuccess debug now index = some r) :
    r.1.backends.length = p.backends.length := by
  simpa using congrArg List.length (markSuccess_configs h)

theorem length_markFailure {r : BackendPool × Option HealthTransition} (h : p.markFailure debug now index = some r) :
    r.1.backends.length = p.backends.length := by
  simpa using congrArg List.length (markFailureWithReason_configs h)

theorem length_markRequestFailure {reason : HealthFailureReason} {r : BackendPool × Option HealthTransition}
    (h : p.markRequestFailure debug now index reason = some r) : r.1.backends.length = p.backends.length := by
  simpa using congrArg List.length (markRequestFailure_configs h)

theorem length_reconcileReadmitAt {p' : BackendPool} (h : p.reconcileReadmitAt debug now = some p') :
    p'.backends.length = p.backends.length := by
  simpa using congrArg List.length (reconcileReadmitAt_configs h)

/-- no re-admission falls due at `now`: `reconcile_readmit_at` returns at once -/
def ReadmitNotDue (now : ℕ) (p : BackendPool) : Prop := ∀ t, p.earliestReadmit = some t → now < t

theorem reconcileReadmitAt_of_notDue (h : ReadmitNotDue now p) : p.reconcileReadmitAt debug now = some p := by
  unfold reconcileReadmitAt
  cases he : p.earliestReadmit with
  | none => rfl
  | some t => simp [h t he]

end BackendPool

/-! ## The strategies' picks -/

namespace RoundRobin

/-- `pick`: the index and the counters after `next.wrapping_add(1)` -/
def pick (rr : RoundRobin) (pool : BackendPool) : Option ℕ × RoundRobin :=
  if pool.healthy.isEmpty then (none, rr)
  else (pool.healthy[rr.next % pool.healthy.length]?, { rr with next := wrappingSucc usizeMax rr.next })

/-- below `usize::MAX` the counter steps by one, unless nothing is healthy -/
theorem pick_next_le {rr : RoundRobin} (pool : BackendPool) (h : rr.next < usizeMax) :
    (rr.pick pool).2.next ≤ rr.next + 1 := by
  unfold pick
  split
  · exact Nat.le_succ _
  · exact (wrappingSucc_of_lt h).le

/-- a pick reads the position of the counter, and the picks after it read on from the next position, as long as the
counter does not wrap -/
theorem pick_reads {rr : RoundRobin} (pool : BackendPool) (k : ℕ) (h : rr.next < usizeMax) :
    (rr.pick pool).1 :: Rotation.reads pool.healthy (rr.pick pool).2.next k =
      Rotation.reads pool.healthy rr.next (k + 1) := by
  rw [Rotation.reads_succ]
  unfold pick
  split
  · -- nothing is healthy: every read is empty, from wherever it starts
    rename_i hempty
    rw [List.isEmpty_iff.1 hempty, Rotation.reads_nil, Rotation.reads_nil]
    rfl
  · rw [wrappingSucc_of_lt h]

end RoundRobin

namespace LoadBalancing

variable {F : Type} [LinearOrder F] [Add F] [Mul F] [NatCast F]

/-- `pick`: the index and the strategy state after the call; `none` is a panic -/
def pick (draw : ℕ) (key : String) (lb : LoadBalancing) (lp : LoadedPool F) : Option (Option ℕ × LoadBalancing) :=
  match lb with
  | .roundRobin rr => some ((rr.pick lp.pool).1, .roundRobin (rr.pick lp.pool).2)
  | .consistentHash ch => (ch.pick key lp.pool).map fun r => (r.2, .consistentHash r.1)
  -- the stateless strategies pick as their read-only picks do
  | .random => some (Random.pickReadonly draw lp.pool, lb)
  | .leastConnections => (LeastConnections.pickReadonly lp).map fun r => (r, lb)
  | .latencyAware => (LatencyAware.pickReadonly lp).map fun r => (r, lb)
  | .stickyCid inner =>
    if key.isEmpty then some (lp.pool.healthy.head?, lb)
    else (inner.pick key lp.pool).map fun r => (r.2, .stickyCid r.1)

end LoadBalancing

/-! ## The upstream pool's calls -/

/-- the pick of one request: its clock value, the random strategy's draw, and the request's load-balancing key -/
structure PickCall where
  now : ℕ
  draw : ℕ
  key : String
deriving DecidableEq, Repr

namespace UpstreamPool

variable {F : Type}

@[simp] theorem withPool_pool (up : UpstreamPool F) (p : BackendPool) (h) : (up.withPool p h).lp.pool = p := rfl

@[simp] theorem withPool_load (up : UpstreamPool F) (p : BackendPool) (h) : (up.withPool p h).lp.load = up.lp.load :=
  rfl

@[simp] theorem withPool_loadBalancer (up : UpstreamPool F) (p : BackendPool) (h) :
    (up.withPool p h).loadBalancer = up.loadBalancer := rfl

theorem withPool_self (up : UpstreamPool F) (h) : up.withPool up.lp.pool h = up := rfl

/-- the upstream pool after a call `f` on its backend pool that keeps the number of backends, with the call's
answer -/
def throughPool {β : Type} (f : BackendPool → Option (BackendPool × β))
    (hf : ∀ p r, f p = some r → r.1.backends.length = p.backends.length) (up : UpstreamPool F) :
    Option (UpstreamPool F × β) :=
  match h : f up.lp.pool with
  | none => none
  | some r => some (up.withPool r.1 (hf _ _ h), r.2)

theorem throughPool_eq_some {β : Type} {f : BackendPool → Option (BackendPool × β)} {hf} {up : UpstreamPool F}
    {r : UpstreamPool F × β} :
    up.throughPool f hf = some r ↔ ∃ p h, f up.lp.pool = some p ∧ r = (up.withPool p.1 h, p.2) := by
  unfold throughPool
  split
  · rename_i hnone
    simp [hnone]
  · rename_i p hp
    simp only [Option.some.injEq, hp]
    exact ⟨fun h => ⟨p, hf _ _ hp, rfl, h.symm⟩, fun ⟨_, _, hp', hr⟩ => by cases hp'; exact hr.symm⟩

/-- `reconcile_readmit` at clock value `now`: `reconcile_readmit_at` checks itself that a re-admission is pending -/
def reconcileReadmit (debug : Bool) (now : ℕ) (up : UpstreamPool F) : Option (UpstreamPool F) :=
  (up.throughPool (fun p => (p.reconcileReadmitAt debug now).map fun p => (p, ())) fun _ _ h => by
    obtain ⟨p', hp', rfl⟩ := Option.map_eq_some_iff.1 h
    exact BackendPool.length_reconcileReadmitAt hp').map Prod.fst

theorem reconcileReadmit_eq_some {debug : Bool} {now : ℕ} {up up' : UpstreamPool F} :
    up.reconcileReadmit debug now = some up' ↔
      ∃ p h, up.lp.pool.reconcileReadmitAt debug now = some p ∧ up' = up.withPool p h := by
  unfold reconcileReadmit
  rw [Option.map_eq_some_iff]
  constructor
  · rintro ⟨r, hr, rfl⟩
    obtain ⟨⟨p, u⟩, h, hp, rfl⟩ := throughPool_eq_some.1 hr
    obtain ⟨p', hp', hpp⟩ := Option.map_eq_some_iff.1 hp
    obtain ⟨rfl, -⟩ := Prod.mk.inj hpp
    exact ⟨_, h, hp', rfl⟩
  · rintro ⟨p, h, hp, rfl⟩
    exact ⟨(up.withPool p h, ()), throughPool_eq_some.2 ⟨(p, ()), h, by rw [hp]; rfl, rfl⟩, rfl⟩

theorem reconcileReadmit_of_notDue {debug : Bool} {now : ℕ} {up : UpstreamPool F}
    (h : BackendPool.ReadmitNotDue now up.lp.pool) : up.reconcileReadmit debug now = some up :=
  reconcileReadmit_eq_some.2 ⟨_, rfl, BackendPool.reconcileReadmitAt_of_notDue h, (withPool_self up rfl).symm⟩

/-- `mark_backend_healthy` at clock value `now` -/
def markBackendHealthy (debug : Bool) (now index : ℕ) (up : UpstreamPool F) :
    Option (UpstreamPool F × Option HealthTransition) :=
  up.throughPool (BackendPool.markSuccess debug now index) fun _ _ => BackendPool.length_markSuccess

/-- `mark_backend_failure_from_active_check` at clock value `now` -/
def markBackendFailureFromActiveCheck (debug : Bool) (now index : ℕ) (up : UpstreamPool F) :
    Option (UpstreamPool F × Option HealthTransition) :=
  up.throughPool (BackendPool.markFailure debug now index) fun _ _ => BackendPool.length_markFailure

/-- `mark_backend_request_failure` at clock value `now` -/
def markBackendRequestFailure (debug : Bool) (now index : ℕ) (reason : HealthFailureReason) (up : UpstreamPool F) :
    Option (UpstreamPool F × Option HealthTransition) :=
  up.throughPool (BackendPool.markRequestFailure debug now index reason) fun _ _ =>
    BackendPool.length_markRequestFailure

/-- the upstream pool with load counters rewritten by a write that keeps their number -/
def withLoad (up : UpstreamPool F) (load : List (BackendLoad F)) (h : load.length = up.lp.load.length) :
    UpstreamPool F :=
  ⟨⟨up.lp.pool, load, h.trans up.lp.load_length⟩, up.loadBalancer, up.alternateBackend⟩

@[simp] theorem withLoad_pool (up : UpstreamPool F) (load : List (BackendLoad F)) (h) :
    (up.withLoad load h).lp.pool = up.lp.pool := rfl

@[simp] theorem withLoad_load (up : UpstreamPool F) (load : List (BackendLoad F)) (h) :
    (up.withLoad load h).lp.load = load := rfl

@[simp] theorem withLoad_loadBalancer (up : UpstreamPool F) (load : List (BackendLoad F)) (h) :
    (up.withLoad load h).loadBalancer = up.loadBalancer := rfl

/-- `begin_request_for_accounting`, the pool's `begin_request` -/
def beginRequestForAccounting (index : ℕ) (up : UpstreamPool F) : UpstreamPool F :=
  up.withLoad (beginRequest index up.lp.load) (length_beginRequest _ _)

/-- `begin_request_if_healthy`: the upstream pool after the call and the returned flag -/
def beginRequestIfHealthy (index : ℕ) (up : UpstreamPool F) : UpstreamPool F × Bool :=
  if up.lp.pool.isHealthyIndex index then (up.beginRequestForAccounting index, true) else (up, false)

/-- `finish_request` -/
def finishRequest [Add F] [Mul F] [Sub F] [OfScientific F] (index : ℕ) (latency : F) (status : Option ℕ)
    (up : UpstreamPool F) : UpstreamPool F :=
  up.withLoad (Spooky.Lb.finishRequest index latency status up.lp.load) (length_finishRequest _ _ _ _)

theorem map_activeRequests_add (o : Option (BackendLoad F)) (c : ℕ) :
    o.map (fun b => b.activeRequests + c) = (o.map BackendLoad.activeRequests).map (· + c) := by
  cases o <;> rfl

variable [LinearOrder F] [Add F] [Mul F] [NatCast F]

/-- `pick_without_begin` at clock value `now`: `reconcile_readmit`, then the strategy's pick -/
def pickWithoutBegin (debug : Bool) (now draw : ℕ) (key : String) (up : UpstreamPool F) :
    Option (UpstreamPool F × Option ℕ) :=
  (up.reconcileReadmit debug now).bind fun up =>
    (up.loadBalancer.pick draw key up.lp).map fun r => ({ up with loadBalancer := r.2 }, r.1)

/-- `pick` at clock value `now`: the same two steps, then `begin_request` on the selected index -/
def pick (debug : Bool) (now draw : ℕ) (key : String) (up : UpstreamPool F) : Option (UpstreamPool F × Option ℕ) :=
  (up.pickWithoutBegin debug now draw key).map fun r =>
    match r.2 with
    | some selected => (r.1.beginRequestForAccounting selected, some selected)
    | none => (r.1, none)

/-- the picks of successive requests, each with `pick` -/
def pickRun (debug : Bool) : UpstreamPool F → List PickCall → Option (UpstreamPool F × List (Option ℕ))
  | up, [] => some (up, [])
  | up, call :: calls =>
    (up.pick debug call.now call.draw call.key).bind fun r =>
      (pickRun debug r.1 calls).map fun s => (s.1, r.2 :: s.2)

/-! ## What a pick writes -/

section Writes

variable {debug : Bool} {now draw : ℕ} {key : String}

theorem pickWithoutBegin_eq_some {up up' : UpstreamPool F} {r : Option ℕ} :
    up.pickWithoutBegin debug now draw key = some (up', r) ↔
      ∃ up1 lb, up.reconcileReadmit debug now = some up1 ∧ up1.loadBalancer.pick draw key up1.lp = some (r, lb) ∧
        up' = { up1 with loadBalancer := lb } := by
  unfold pickWithoutBegin
  rw [Option.bind_eq_some_iff]
  constructor
  · rintro ⟨up1, h1, h2⟩
    obtain ⟨⟨r', lb⟩, hpick, hr⟩ := Option.map_eq_some_iff.1 h2
    cases hr
    exact ⟨up1, lb, h1, hpick, rfl⟩
  · rintro ⟨up1, lb, h1, hpick, rfl⟩
    exact ⟨up1, h1, by rw [hpick]; rfl⟩

theorem pick_of_pickWithoutBegin {up up1 : UpstreamPool F} {r : Option ℕ}
    (h : up.pickWithoutBegin debug now draw key = some (up1, r)) :
    up.pick debug now draw key = some (r.elim up1 up1.beginRequestForAccounting, r) := by
  cases r <;> simp [pick, h]

theorem pick_eq_some {up up' : UpstreamPool F} {r : Option ℕ} :
    up.pick debug now draw key = some (up', r) ↔
      ∃ up1, up.pickWithoutBegin debug now draw key = some (up1, r) ∧
        up' = r.elim up1 up1.beginRequestForAccounting := by
  constructor
  · intro h
    obtain ⟨⟨up1, r1⟩, h1, hr⟩ := Option.map_eq_some_iff.1 h
    rw [pick_of_pickWithoutBegin h1, Option.some.injEq] at h
    obtain ⟨rfl, rfl⟩ := Prod.mk.inj h
    exact ⟨up1, h1, rfl⟩
  · rintro ⟨up1, h1, rfl⟩
    exact pick_of_pickWithoutBegin h1

/-- `pick_without_begin` leaves the load counters as they were -/
theorem pickWithoutBegin_load {up up' : UpstreamPool F} {r : Option ℕ}
    (h : up.pickWithoutBegin debug now draw key = some (up', r)) : up'.lp.load = up.lp.load := by
  obtain ⟨up1, lb, h1, -, rfl⟩ := pickWithoutBegin_eq_some.1 h
  obtain ⟨p, hp, -, rfl⟩ := reconcileReadmit_eq_some.1 h1
  rfl

/-- `pick` counts one more active request on the selected backend and changes no other count -/
theorem pick_activeRequests {up up' : UpstreamPool F} {r : Option ℕ} (h : up.pick debug now draw key = some (up', r))
    (j : ℕ) :
    up'.lp.load[j]?.map BackendLoad.activeRequests =
      up.lp.load[j]?.map fun b => b.activeRequests + if r = some j then 1 else 0 := by
  obtain ⟨up1, h1, rfl⟩ := pick_eq_some.1 h
  have hload := pickWithoutBegin_load h1
  cases r with
  | none => simp [hload]
  | some i =>
    simp only [Option.elim_some, beginRequestForAccounting, withLoad_load, Option.some.injEq]
    rw [activeRequests_beginRequest, hload]

/-- along every run of picks, each backend's count of active requests grows by the number of picks that selected
it -/
theorem pickRun_activeRequests (calls : List PickCall) {up up' : UpstreamPool F} {answers : List (Option ℕ)}
    (h : up.pickRun debug calls = some (up', answers)) (j : ℕ) :
    up'.lp.load[j]?.map BackendLoad.activeRequests =
      up.lp.load[j]?.map fun b => b.activeRequests + answers.count (some j) := by
  induction calls generalizing up answers with
  | nil =>
    cases h
    simp
  | cons call calls ih =>
    -- the first pick, then the run from the state it leaves
    obtain ⟨⟨up1, r⟩, h1, hrest⟩ := Option.bind_eq_some_iff.1 h
    obtain ⟨⟨up2, rs⟩, h2, hs⟩ := Option.map_eq_some_iff.1 hrest
    simp only [Prod.mk.injEq] at hs
    obtain ⟨rfl, rfl⟩ := hs
    calc up2.lp.load[j]?.map BackendLoad.activeRequests
        = (up1.lp.load[j]?.map BackendLoad.activeRequests).map (· + rs.count (some j)) := by
          rw [ih h2, map_activeRequests_add]
      _ = (up.lp.load[j]?.map fun b => b.activeRequests + if r = some j then 1 else 0).map
            (· + rs.count (some j)) := by rw [pick_activeRequests h1]
      _ = up.lp.load[j]?.map fun b => b.activeRequests + (r :: rs).count (some j) := by
          rw [Option.map_map]
          congr 1
          funext b
          by_cases hr : r = some j
          · simp [hr]
            omega
          · simp [hr]

end Writes

/-! ## Round-robin over a run -/

section RoundRobinRun

variable {debug : Bool}

/-- while no re-admission falls due, the round-robin picks of a run read `healthy` round and round from the counter,
and leave the backend pool as it was -/
theorem pickRun_roundRobin (calls : List PickCall) {up : UpstreamPool F} {rr : RoundRobin}
    (hrr : up.loadBalancer = .roundRobin rr) (hquiet : ∀ call ∈ calls, BackendPool.ReadmitNotDue call.now up.lp.pool)
    (hwrap : rr.next + calls.length ≤ usizeMax) :
    ∃ up', up.pickRun debug calls = some (up', Rotation.reads up.lp.pool.healthy rr.next calls.length) ∧
      up'.lp.pool = up.lp.pool := by
  induction calls generalizing up rr with
  | nil => exact ⟨up, by simp [pickRun, Rotation.reads_zero], rfl⟩
  | cons call calls ih =>
    -- the first pick: the pool is not reconciled, and the strategy steps its counter
    have hwb : up.pickWithoutBegin debug call.now call.draw call.key =
        some ({ up with loadBalancer := .roundRobin (rr.pick up.lp.pool).2 }, (rr.pick up.lp.pool).1) :=
      pickWithoutBegin_eq_some.2 ⟨up, _, reconcileReadmit_of_notDue (hquiet call List.mem_cons_self),
        by rw [hrr]; rfl, rfl⟩
    have h1 := pick_of_pickWithoutBegin hwb
    set up1 := ((rr.pick up.lp.pool).1).elim { up with loadBalancer := .roundRobin (rr.pick up.lp.pool).2 }
      ({ up with loadBalancer := .roundRobin (rr.pick up.lp.pool).2 }).beginRequestForAccounting with hup1
    have hpool1 : up1.lp.pool = up.lp.pool := by
      rw [hup1]
      cases (rr.pick up.lp.pool).1 <;> rfl
    have hrr1 : up1.loadBalancer = .roundRobin (rr.pick up.lp.pool).2 := by
      rw [hup1]
      cases (rr.pick up.lp.pool).1 <;> rfl
    have hlt : rr.next < usizeMax := by
      rw [List.length_cons] at hwrap
      omega
    have hwrap1 : (rr.pick up.lp.pool).2.next + calls.length ≤ usizeMax := by
      have := RoundRobin.pick_next_le up.lp.pool hlt
      rw [List.length_cons] at hwrap
      omega
    obtain ⟨up', hrun, hpool'⟩ := ih hrr1 (fun c hc => hpool1 ▸ hquiet c (List.mem_cons_of_mem _ hc)) hwrap1
    refine ⟨up', ?_, hpool'.trans hpool1⟩
    rw [pickRun, h1, Option.bind_some, hrun, Option.map_some, hpool1, List.length_cons,
      ← RoundRobin.pick_reads _ _ hlt]

/-- round-robin fairness: over a run of `k` round-robin picks while no re-admission falls due and the counter does not
wrap, on a pool whose `healthy` lists `n` backends without duplicates, each healthy backend is picked `k / n` or
`k / n + 1` times and its count of active requests grows by as many, and any `n` consecutive picks select every
healthy backend once -/
theorem roundRobin_fair (calls : List PickCall) {up : UpstreamPool F} {rr : RoundRobin}
    (hrr : up.loadBalancer = .roundRobin rr) (hnd : up.lp.pool.healthy.Nodup)
    (hquiet : ∀ call ∈ calls, BackendPool.ReadmitNotDue call.now up.lp.pool) (hwrap : rr.next + calls.length ≤ usizeMax) :
    ∃ up' answers, up.pickRun debug calls = some (up', answers) ∧
      (∀ i ∈ up.lp.pool.healthy,
        calls.length / up.lp.pool.healthy.length ≤ answers.count (some i) ∧
        answers.count (some i) ≤ calls.length / up.lp.pool.healthy.length + 1 ∧
        up'.lp.load[i]?.map BackendLoad.activeRequests =
          up.lp.load[i]?.map fun b => b.activeRequests + answers.count (some i)) ∧
      ∀ j, j + up.lp.pool.healthy.length ≤ calls.length →
        ((answers.drop j).take up.lp.pool.healthy.length).Perm (up.lp.pool.healthy.map some) := by
  obtain ⟨up', hrun, -⟩ := pickRun_roundRobin calls hrr hquiet hwrap
  refine ⟨up', _, hrun, fun i hi => ?_, fun j hj => ?_⟩
  · obtain ⟨hlo, hhi⟩ := Rotation.count_reads_bounds hnd hi rr.next calls.length
    exact ⟨hlo, hhi, pickRun_activeRequests calls hrun i⟩
  · exact Rotation.window_reads_perm hj

end RoundRobinRun

end UpstreamPool

/-- a round-robin upstream of two fresh backends -/
def roundRobinPair : UpstreamPool ℕ :=
  ⟨⟨BackendPool.newFromStates [BackendState.new ⟨"10.0.0.1:1", 1, none⟩, BackendState.new ⟨"10.0.0.2:1", 1, none⟩],
    [⟨0, none⟩, ⟨0, none⟩], rfl⟩, .roundRobin RoundRobin.new, .ofStrategy .roundRobin⟩

theorem roundRobinPair_three_picks :
    RoundRobin.new.next + 3 ≤ usizeMax ∧ ∃ up' answers, roundRobinPair.pickRun false [⟨0, 0, ""⟩, ⟨1, 0, ""⟩, ⟨2, 0, ""⟩] = some (up', answers) ∧
      (∀ i ∈ roundRobinPair.lp.pool.healthy,
        3 / roundRobinPair.lp.pool.healthy.length ≤ answers.count (some i) ∧
        answers.count (some i) ≤ 3 / roundRobinPair.lp.pool.healthy.length + 1 ∧
        up'.lp.load[i]?.map BackendLoad.activeRequests =
          roundRobinPair.lp.load[i]?.map fun b => b.activeRequests + answers.count (some i)) ∧
      ∀ j, j + roundRobinPair.lp.pool.healthy.length ≤ 3 →
        ((answers.drop j).take roundRobinPair.lp.pool.healthy.length).Perm (roundRobinPair.lp.pool.healthy.map some) :=
  ⟨by decide, UpstreamPool.roundRobin_fair _ rfl (by decide) (fun _ _ t ht => by cases ht) (by decide)⟩

end Spooky.Lb
