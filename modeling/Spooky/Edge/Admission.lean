/-
Post-authentication admission of a forwarded request (`crates/edge/src/quic_listener/admission.rs`).

`execute_forwarding_post_auth_admission` takes, in order, an adaptive-admission permit, a route-queue permit for the
upstream's name, a permit of the global semaphore and one of the upstream's semaphore, and then checks the upstream
pool and the selected backend. Each rejection returns early, and Rust drops the permits taken so far, the latest
first; a `Ready` result holds all four until they are dropped. The upstream pool is the `BackendPool` behind it
(`is_backend_healthy` is its `is_healthy_index`); its read lock is never poisoned in a sequential run.

tokio's semaphores are not part of the repository: their state is a type `σ` and their operations a `SemaphoreOps`,
and the results assume of them only the laws `SemaphoreLaws`.

The system: the limiters' state with the list of live permits, moved by calls, drops of live permits (in any order)
and latency observations that move the adaptive limit.

Results:
- `execute_rejected`: a rejected call leaves every limiter and both semaphores as they were.
- `step_conserved`, `run_conserved`: each counter equals the number of live permits of its kind, and the caps hold.
- `admission_counters_conserved`: both, over every run from fresh limiters.
-/
import Spooky.Edge.Limiters
import Spooky.Lb.BackendPool

namespace Spooky.Edge

open KeyedList Counters

/-! ## Decisions -/

inductive OverloadDecisionReason where
  | brownout
  | adaptiveAdmission
  | routeCap
  | routeGlobalCap
  | globalInflight
  | upstreamInflight
deriving DecidableEq, Repr

def OverloadDecisionReason.responseBody : OverloadDecisionReason → String
  | .brownout => "brownout active, non-core route shed\n"
  | .adaptiveAdmission => "adaptive admission overload\n"
  | .routeCap => "route queue cap exceeded\n"
  | .routeGlobalCap => "global queue cap exceeded\n"
  | .globalInflight => "overloaded, retry later\n"
  | .upstreamInflight => "upstream overloaded, retry later\n"

inductive RouteOutcome where
  | success
  | failure
  | rateLimited
  | timeout
  | backendError
  | overloadShed
deriving DecidableEq, Repr

structure OverloadDecision where
  reason : OverloadDecisionReason
  status : ℕ
  body : String
  retryAfterSeconds : ℕ
deriving DecidableEq, Repr

/-- `overloaded`: the decision `overload_decision` builds, status 503 -/
def overloaded (reason : OverloadDecisionReason) (retryAfterSeconds : ℕ) : OverloadDecision :=
  ⟨reason, 503, reason.responseBody, max retryAfterSeconds 1⟩

def overloadFromRouteQueueRejection (rejection : RouteQueueRejection) (retryAfterSeconds : ℕ) : OverloadDecision :=
  let reason : OverloadDecisionReason :=
    match rejection with
    | .globalCap => .routeGlobalCap
    | .routeCap => .routeCap
  overloaded reason retryAfterSeconds

structure PostAuthAdmissionFailure where
  status : ℕ
  body : String
  overloadReason : Option OverloadDecisionReason
  routeOutcome : Option RouteOutcome
  observeAdaptiveOverload : Bool
deriving DecidableEq, Repr

inductive PostAuthAdmissionRejection where
  | overloaded (decision : OverloadDecision)
  | failed (failure : PostAuthAdmissionFailure)
deriving DecidableEq, Repr

/-- a live permit, by what its `Drop` gives back -/
inductive Permit where
  /-- an `OwnedSemaphorePermit` of the global semaphore -/
  | global
  /-- an `OwnedSemaphorePermit` of the semaphore of the named upstream -/
  | upstream (name : String)
  | adaptive
  | routeQueue (route : String)
deriving DecidableEq, Repr

def Permit.isRouteQueue : Permit → Bool
  | .routeQueue _ => true
  | _ => false

/-- `PostAuthAdmissionReady`: the upstream name says which semaphore `upstream_permit` and which route
`route_queue_permit` belong to -/
structure PostAuthAdmissionReady where
  backendIndex : ℕ
  upstreamName : String
  waitedForGlobalPermit : Bool
  waitedForUpstreamPermit : Bool
deriving DecidableEq, Repr

/-- the permits a `Ready` result holds, in the order its fields are dropped -/
def PostAuthAdmissionReady.permits (r : PostAuthAdmissionReady) : List Permit :=
  [.global, .upstream r.upstreamName, .adaptive, .routeQueue r.upstreamName]

inductive PostAuthAdmissionExecution where
  | ready (ready : PostAuthAdmissionReady)
  | rejected (rejection : PostAuthAdmissionRejection)
deriving DecidableEq, Repr

/-! ## The call -/

/-- the limiters, the global semaphore and the semaphores of the upstreams by name -/
structure AdmissionState (σ : Type) where
  adaptive : AdaptiveAdmission
  routeQueue : RouteQueueLimiter
  globalInflight : σ
  upstreamInflight : List (String × σ)
deriving DecidableEq, Repr

namespace AdmissionState

variable {σ : Type} (S : SemaphoreOps σ)

/-- the `Drop` of one permit -/
def releasePermit (s : AdmissionState σ) : Permit → AdmissionState σ
  | .global => { s with globalInflight := S.release s.globalInflight }
  | .upstream name =>
    match get name s.upstreamInflight with
    | some semaphore => { s with upstreamInflight := set name (S.release semaphore) s.upstreamInflight }
    | none => s
  | .adaptive => { s with adaptive := s.adaptive.releasePermit }
  | .routeQueue route => { s with routeQueue := s.routeQueue.releasePermit route }

/-- the drops at an early return, in the order given -/
def releaseAll (s : AdmissionState σ) (held : List Permit) : AdmissionState σ := held.foldl (releasePermit S) s

end AdmissionState

open AdmissionState

/-- `execute_forwarding_post_auth_admission`: the limiters' state after the call and its result -/
def executeForwardingPostAuthAdmission {σ : Type} (S : SemaphoreOps σ) (shedRetryAfterSeconds : ℕ)
    (s : AdmissionState σ) (upstreamName : String) (upstreamPool : Option Lb.BackendPool) (backendIndex : Option ℕ)
    (pendingForwardBackendIndex : ℕ) : AdmissionState σ × PostAuthAdmissionExecution :=
  match s.adaptive.tryAcquire with
  | none => (s, .rejected (.overloaded (overloaded .adaptiveAdmission shedRetryAfterSeconds)))
  | some adaptive =>
    let s := { s with adaptive := adaptive }
    match s.routeQueue.tryAcquire upstreamName with
    | .error rejection =>
      (s.releaseAll S [.adaptive],
        .rejected (.overloaded (overloadFromRouteQueueRejection rejection shedRetryAfterSeconds)))
    | .ok routeQueue =>
      let s := { s with routeQueue := routeQueue }
      match S.tryAcquireOwned s.globalInflight with
      | none =>
        (s.releaseAll S [.routeQueue upstreamName, .adaptive],
          .rejected (.overloaded (overloaded .globalInflight shedRetryAfterSeconds)))
      | some globalInflight =>
        let s := { s with globalInflight := globalInflight }
        match get upstreamName s.upstreamInflight with
        | some semaphore =>
          match S.tryAcquireOwned semaphore with
          | none =>
            (s.releaseAll S [.global, .routeQueue upstreamName, .adaptive],
              .rejected (.overloaded (overloaded .upstreamInflight shedRetryAfterSeconds)))
          | some semaphore =>
            let s := { s with upstreamInflight := set upstreamName semaphore s.upstreamInflight }
            let held : List Permit := [.upstream upstreamName, .global, .routeQueue upstreamName, .adaptive]
            let backendIndex := backendIndex.getD pendingForwardBackendIndex
            match upstreamPool with
            | none => (s.releaseAll S held, .rejected (.failed ⟨500, "missing upstream pool\n", none, none, false⟩))
            | some pool =>
              if !pool.isHealthyIndex backendIndex then
                (s.releaseAll S held,
                  .rejected (.failed ⟨503, "selected backend no longer healthy\n", none, some .failure, false⟩))
              else (s, .ready ⟨backendIndex, upstreamName, false, false⟩)
        | none =>
          (s.releaseAll S [.global, .routeQueue upstreamName, .adaptive],
            .rejected (.failed ⟨503, "upstream admission limiter unavailable\n", some .upstreamInflight,
              some .overloadShed, true⟩))

/-! ## Drops undo acquisitions -/

namespace AdmissionState

variable {σ : Type} {S : SemaphoreOps σ} {s : AdmissionState σ}

theorem release_adaptive {a : AdaptiveAdmission} (h : s.adaptive.tryAcquire = some a) :
    ({ s with adaptive := a } : AdmissionState σ).releasePermit S .adaptive = s := by
  simp [releasePermit, AdaptiveAdmission.releasePermit_tryAcquire h]

theorem release_routeQueue {route : String} {l : RouteQueueLimiter} (h : s.routeQueue.tryAcquire route = .ok l)
    (hzero : get route s.routeQueue.byRoute ≠ some 0) (hmax : s.routeQueue.globalCap ≤ usizeMax) :
    ({ s with routeQueue := l } : AdmissionState σ).releasePermit S (.routeQueue route) = s := by
  simp [releasePermit, RouteQueueLimiter.releasePermit_tryAcquire h hzero hmax]

theorem release_global (hS : SemaphoreLaws S) {g : σ} (h : S.tryAcquireOwned s.globalInflight = some g) :
    ({ s with globalInflight := g } : AdmissionState σ).releasePermit S .global = s := by
  simp [releasePermit, hS.release_acquire _ _ h]

theorem release_upstream (hS : SemaphoreLaws S) {name : String} {semaphore semaphore' : σ}
    (hget : get name s.upstreamInflight = some semaphore) (h : S.tryAcquireOwned semaphore = some semaphore') :
    ({ s with upstreamInflight := set name semaphore' s.upstreamInflight } : AdmissionState σ).releasePermit S
      (.upstream name) = s := by
  simp [releasePermit, hget, set_set, hS.release_acquire _ _ h, set_of_get hget]

end AdmissionState

/-- what a rejection needs of the state to restore it: the route has no zero count and the global cap is a `usize` -/
structure Restorable {σ : Type} (s : AdmissionState σ) (upstreamName : String) : Prop where
  zero : get upstreamName s.routeQueue.byRoute ≠ some 0
  cap : s.routeQueue.globalCap ≤ usizeMax

section Execute

variable {σ : Type} {S : SemaphoreOps σ} {shed : ℕ} {s s' : AdmissionState σ} {upstreamName : String}
  {upstreamPool : Option Lb.BackendPool} {backendIndex : Option ℕ} {pending : ℕ}

/-- a rejected call gives back every permit it took -/
theorem execute_rejected (hS : SemaphoreLaws S) (hs : Restorable s upstreamName) {rejection : PostAuthAdmissionRejection}
    (h : executeForwardingPostAuthAdmission S shed s upstreamName upstreamPool backendIndex pending =
      (s', .rejected rejection)) : s' = s := by
  unfold executeForwardingPostAuthAdmission at h
  split at h
  · exact (Prod.mk.inj h).1.symm
  · rename_i a ha
    -- each later rejection drops the permits taken so far, the latest first
    have h₁ := release_adaptive (S := S) ha
    dsimp only at h
    split at h
    · rw [← (Prod.mk.inj h).1, releaseAll, List.foldl_cons, List.foldl_nil, h₁]
    · rename_i l hl
      have h₂ := release_routeQueue (S := S) (s := { s with adaptive := a }) hl hs.zero hs.cap
      split at h
      · rw [← (Prod.mk.inj h).1, releaseAll, List.foldl_cons, List.foldl_cons, List.foldl_nil, h₂, h₁]
      · rename_i g hg
        have h₃ := release_global (s := { s with adaptive := a, routeQueue := l }) hS hg
        split at h
        · rename_i available hget
          split at h
          · rw [← (Prod.mk.inj h).1, releaseAll, List.foldl_cons, List.foldl_cons, List.foldl_cons,
              List.foldl_nil, h₃, h₂, h₁]
          · rename_i left hleft
            have h₄ := release_upstream (s := { s with adaptive := a, routeQueue := l, globalInflight := g }) hS hget
              hleft
            have hall : releaseAll S ({ s with
                adaptive := a, routeQueue := l, globalInflight := g,
                upstreamInflight := set upstreamName left s.upstreamInflight } : AdmissionState σ)
                [.upstream upstreamName, .global, .routeQueue upstreamName, .adaptive] = s := by
              rw [releaseAll, List.foldl_cons, List.foldl_cons, List.foldl_cons, List.foldl_cons, List.foldl_nil,
                h₄, h₃, h₂, h₁]
            split at h
            · exact ((Prod.mk.inj h).1).symm.trans hall
            · split at h
              · exact ((Prod.mk.inj h).1).symm.trans hall
              · simp at h
        · rw [← (Prod.mk.inj h).1, releaseAll, List.foldl_cons, List.foldl_cons, List.foldl_cons,
            List.foldl_nil, h₃, h₂, h₁]

/-- a granted call took one permit of each kind, for the upstream's name, and found the backend healthy -/
theorem execute_ready {ready : PostAuthAdmissionReady}
    (h : executeForwardingPostAuthAdmission S shed s upstreamName upstreamPool backendIndex pending =
      (s', .ready ready)) :
    ready.upstreamName = upstreamName ∧ s.adaptive.tryAcquire = some s'.adaptive ∧
      s.routeQueue.tryAcquire upstreamName = .ok s'.routeQueue ∧
      S.tryAcquireOwned s.globalInflight = some s'.globalInflight ∧
      (∃ semaphore semaphore', get upstreamName s.upstreamInflight = some semaphore ∧
        S.tryAcquireOwned semaphore = some semaphore' ∧
        s'.upstreamInflight = set upstreamName semaphore' s.upstreamInflight) ∧
      ready.backendIndex = backendIndex.getD pending ∧
      ∃ pool, upstreamPool = some pool ∧ pool.isHealthyIndex ready.backendIndex = true := by
  unfold executeForwardingPostAuthAdmission at h
  split at h
  · simp at h
  · rename_i a ha
    dsimp only at h
    split at h
    · simp at h
    · rename_i l hl
      split at h
      · simp at h
      · rename_i g hg
        split at h
        · rename_i available hget
          split at h
          · simp at h
          · rename_i left hleft
            split at h
            · simp at h
            · rename_i pool
              split at h
              · simp at h
              · rename_i hhealthy
                simp only [Prod.mk.injEq, PostAuthAdmissionExecution.ready.injEq] at h
                obtain ⟨rfl, rfl⟩ := h
                exact ⟨rfl, ha, hl, hg, ⟨available, left, hget, hleft, rfl⟩, rfl, pool, rfl, by simpa using hhealthy⟩
        · simp at h

end Execute

/-! ## Runs: calls, drops and observations -/

/-- the limiters with the permits that `Ready` results hold and that are not dropped yet -/
structure AdmissionWorld (σ : Type) where
  state : AdmissionState σ
  live : List Permit

inductive AdmissionOp where
  | execute (upstreamName : String) (upstreamPool : Option Lb.BackendPool) (backendIndex : Option ℕ)
      (pendingForwardBackendIndex : ℕ)
  | drop (permit : Permit)
  | observe (latencyMs : ℕ) (overloaded : Bool)

namespace AdmissionWorld

variable {σ : Type} (S : SemaphoreOps σ)

def step (shed : ℕ) (w : AdmissionWorld σ) : AdmissionOp → AdmissionWorld σ
  | .execute upstreamName upstreamPool backendIndex pending =>
    match executeForwardingPostAuthAdmission S shed w.state upstreamName upstreamPool backendIndex pending with
    | (s, .ready ready) => ⟨s, w.live ++ ready.permits⟩
    | (s, .rejected _) => ⟨s, w.live⟩
  | .drop permit => if permit ∈ w.live then ⟨w.state.releasePermit S permit, w.live.erase permit⟩ else w
  | .observe latencyMs overloaded =>
    ⟨{ w.state with adaptive := w.state.adaptive.observe latencyMs overloaded }, w.live⟩

def run (shed : ℕ) (w : AdmissionWorld σ) (ops : List AdmissionOp) : AdmissionWorld σ := ops.foldl (step S shed) w

/-- every counter is the number of live permits of its kind, and the caps hold; `G` and `U` are the permits the
global and upstream semaphores had available when no permit was live -/
structure Conserved (G : ℕ) (U : List (String × ℕ)) (w : AdmissionWorld σ) : Prop where
  adaptive : w.state.adaptive.inflight = w.live.count .adaptive
  total : w.state.routeQueue.total = w.live.countP Permit.isRouteQueue
  byRoute : ∀ r, get r w.state.routeQueue.byRoute =
    if w.live.count (.routeQueue r) = 0 then none else some (w.live.count (.routeQueue r))
  total_le : w.state.routeQueue.total ≤ w.state.routeQueue.globalCap
  route_le : ∀ r, w.live.count (.routeQueue r) ≤ w.state.routeQueue.cap r
  globalCap_le : w.state.routeQueue.globalCap ≤ usizeMax
  global : S.availablePermits w.state.globalInflight + w.live.count .global = G
  upstream : ∀ n, get n U =
    (get n w.state.upstreamInflight).map fun semaphore => S.availablePermits semaphore + w.live.count (.upstream n)
  upstream_live : ∀ n, w.live.count (.upstream n) ≠ 0 → (get n w.state.upstreamInflight).isSome

variable {S} {G : ℕ} {U : List (String × ℕ)} {w : AdmissionWorld σ}

/-- the stored count of a route is its number of live permits -/
theorem Conserved.getD_byRoute (hw : Conserved S G U w) (r : String) :
    (get r w.state.routeQueue.byRoute).getD 0 = w.live.count (.routeQueue r) := by
  rw [hw.byRoute r]
  split <;> simp_all

theorem Conserved.restorable (hw : Conserved S G U w) (r : String) : Restorable w.state r := by
  refine ⟨fun h0 => ?_, hw.globalCap_le⟩
  rw [hw.byRoute r] at h0
  split at h0 <;> simp_all

/-- a granted call adds one permit of each kind, counted by every counter -/
theorem execute_ready_conserved (hS : SemaphoreLaws S) (hw : Conserved S G U w) {shed : ℕ} {upstreamName : String}
    {upstreamPool : Option Lb.BackendPool} {backendIndex : Option ℕ} {pending : ℕ} {s' : AdmissionState σ}
    {ready : PostAuthAdmissionReady}
    (hex : executeForwardingPostAuthAdmission S shed w.state upstreamName upstreamPool backendIndex pending =
      (s', .ready ready)) :
    Conserved S G U ⟨s', w.live ++ ready.permits⟩ := by
  obtain ⟨hname, ha, hl, hg, ⟨available, left, hget, hleft, hup⟩, -⟩ := execute_ready hex
  obtain ⟨-, ha'⟩ := AdaptiveAdmission.tryAcquire_eq_some.1 ha
  obtain ⟨htotal, hcap, hl'⟩ := RouteQueueLimiter.tryAcquire_eq_ok.1 hl
  have hg' := hS.acquire_available _ _ hg
  have hleft' := hS.acquire_available _ _ hleft
  have hsat : min (w.state.routeQueue.total + 1) usizeMax = w.state.routeQueue.total + 1 :=
    min_eq_left (by have := hw.globalCap_le; omega)
  have hc := hw.getD_byRoute upstreamName
  rw [hc] at hl' hcap
  simp only [PostAuthAdmissionReady.permits, hname]
  refine ⟨?_, ?_, fun r => ?_, ?_, fun r => ?_, ?_, ?_, fun n => ?_, fun n => ?_⟩
  · simp [ha', hw.adaptive]
  · simp only [hl']
    rw [hsat, hw.total]
    simp [Permit.isRouteQueue]
  · by_cases hr : r = upstreamName
    · subst hr
      simp [hl']
    · simp [hl', get_upsert_ne hr, hw.byRoute r, Ne.symm hr]
  · simp only [hl']
    omega
  · by_cases hr : r = upstreamName
    · subst hr
      simp only [hl', RouteQueueLimiter.cap] at hcap ⊢
      simp
      omega
    · simpa [hl', RouteQueueLimiter.cap, Ne.symm hr] using hw.route_le r
  · simpa [hl'] using hw.globalCap_le
  · have := hw.global
    simp
    omega
  · by_cases hn : n = upstreamName
    · subst hn
      simp [hup, hw.upstream n, hget]
      omega
    · simp [hup, get_set_ne hn, hw.upstream n, Ne.symm hn]
  · by_cases hn : n = upstreamName
    · subst hn
      simp [hup, hget]
    · simpa [hup, get_set_ne hn, Ne.symm hn] using hw.upstream_live n

/-- a dropped permit is no longer counted, and only its own counter moves -/
theorem drop_conserved (hS : SemaphoreLaws S) (hw : Conserved S G U w) {p : Permit} (hp : p ∈ w.live) :
    Conserved S G U ⟨w.state.releasePermit S p, w.live.erase p⟩ := by
  have hpos : 0 < w.live.count p := List.count_pos_iff.2 hp
  have htotal : (w.live.erase p).countP Permit.isRouteQueue =
      w.live.countP Permit.isRouteQueue - if p.isRouteQueue then 1 else 0 := by
    simp [List.countP_erase, hp]
  cases p with
  | global =>
    have hg := hw.global
    refine ⟨?_, ?_, fun r => ?_, hw.total_le, fun r => ?_, hw.globalCap_le, ?_, fun n => ?_, fun n => ?_⟩
    · simp [releasePermit, List.count_erase_of_ne, hw.adaptive]
    · simp [releasePermit, htotal, hw.total, Permit.isRouteQueue]
    · simp [releasePermit, List.count_erase_of_ne, hw.byRoute r]
    · simpa [releasePermit, List.count_erase_of_ne] using hw.route_le r
    · simp only [releasePermit, List.count_erase_self, hS.release_available]
      omega
    · simp [releasePermit, List.count_erase_of_ne, hw.upstream n]
    · simpa [releasePermit, List.count_erase_of_ne] using hw.upstream_live n
  | upstream name =>
    -- the upstream's semaphore is there: one of its permits is live
    obtain ⟨available, hget⟩ := Option.isSome_iff_exists.1 (hw.upstream_live name hpos.ne')
    have hrel : w.state.releasePermit S (.upstream name) =
        { w.state with upstreamInflight := set name (S.release available) w.state.upstreamInflight } := by
      simp [releasePermit, hget]
    rw [hrel]
    refine ⟨?_, ?_, fun r => ?_, hw.total_le, fun r => ?_, hw.globalCap_le, ?_, fun n => ?_, fun n => ?_⟩
    · simp [List.count_erase_of_ne, hw.adaptive]
    · simp [htotal, hw.total, Permit.isRouteQueue]
    · simp [List.count_erase_of_ne, hw.byRoute r]
    · simpa [List.count_erase_of_ne] using hw.route_le r
    · simpa [List.count_erase_of_ne] using hw.global
    · by_cases hn : n = name
      · subst hn
        have hu := hw.upstream n
        simp only [hget, Option.map_some] at hu
        simp only [get_set_self, hget, Option.map_some, List.count_erase_self, hu, hS.release_available]
        congr 1
        omega
      · simp [get_set_ne hn, List.count_erase, hw.upstream n, Ne.symm hn]
    · by_cases hn : n = name
      · subst hn
        simp [hget]
      · simpa [get_set_ne hn, List.count_erase, Ne.symm hn] using hw.upstream_live n
  | adaptive =>
    refine ⟨?_, ?_, fun r => ?_, hw.total_le, fun r => ?_, hw.globalCap_le, ?_, fun n => ?_, fun n => ?_⟩
    · -- the counter is positive, so `fetch_sub` does not wrap
      have ha := hw.adaptive
      simp only [releasePermit, AdaptiveAdmission.releasePermit_inflight, List.count_erase_self, ha, wrappingPred]
      split <;> omega
    · simp [releasePermit, htotal, hw.total, Permit.isRouteQueue]
    · simp [releasePermit, List.count_erase_of_ne, hw.byRoute r]
    · simpa [releasePermit, List.count_erase_of_ne] using hw.route_le r
    · simpa [releasePermit, List.count_erase_of_ne] using hw.global
    · simp [releasePermit, List.count_erase_of_ne, hw.upstream n]
    · simpa [releasePermit, List.count_erase_of_ne] using hw.upstream_live n
  | routeQueue route =>
    -- the route's entry holds its number of live permits, which is positive
    have hget : get route w.state.routeQueue.byRoute = some (w.live.count (.routeQueue route)) := by
      rw [hw.byRoute route, if_neg hpos.ne']
    have hrq : (w.state.releasePermit S (.routeQueue route)).routeQueue =
        { w.state.routeQueue with
          byRoute := if w.live.count (.routeQueue route) - 1 = 0 then
              erase route (set route (w.live.count (.routeQueue route) - 1) w.state.routeQueue.byRoute)
            else set route (w.live.count (.routeQueue route) - 1) w.state.routeQueue.byRoute,
          total := w.state.routeQueue.total - 1 } := by
      simp [releasePermit, RouteQueueLimiter.releasePermit, hget]
    refine ⟨?_, ?_, fun r => ?_, ?_, fun r => ?_, ?_, ?_, fun n => ?_, fun n => ?_⟩
    · simp [releasePermit, List.count_erase_of_ne, hw.adaptive]
    · simp [hrq, htotal, hw.total, Permit.isRouteQueue]
    · by_cases hr : r = route
      · subst hr
        rw [hrq, List.count_erase_self]
        split <;> simp_all
      · rw [hrq]
        have hne : Permit.routeQueue route ≠ .routeQueue r := by simpa using Ne.symm hr
        split <;> simp [get_erase_ne hr, get_set_ne hr, List.count_erase_of_ne hne.symm, hw.byRoute r]
    · rw [hrq]
      exact (Nat.sub_le _ _).trans hw.total_le
    · rw [hrq]
      exact (List.erase_sublist.count_le _).trans (hw.route_le r)
    · simpa [hrq] using hw.globalCap_le
    · simpa [releasePermit, List.count_erase_of_ne] using hw.global
    · simp [releasePermit, List.count_erase_of_ne, hw.upstream n]
    · simpa [releasePermit, List.count_erase_of_ne] using hw.upstream_live n

theorem observe_conserved (hw : Conserved S G U w) (shed latencyMs : ℕ) (overloaded : Bool) :
    Conserved S G U (w.step S shed (.observe latencyMs overloaded)) :=
  ⟨by simpa [step] using hw.adaptive, hw.total, hw.byRoute, hw.total_le, hw.route_le, hw.globalCap_le, hw.global,
    hw.upstream, hw.upstream_live⟩

theorem step_conserved (hS : SemaphoreLaws S) (hw : Conserved S G U w) (shed : ℕ) (op : AdmissionOp) :
    Conserved S G U (w.step S shed op) := by
  cases op with
  | execute upstreamName upstreamPool backendIndex pending =>
    simp only [step]
    split
    · rename_i hex
      exact execute_ready_conserved hS hw hex
    · rename_i hex
      -- a rejection hands every permit back
      rw [execute_rejected hS (hw.restorable upstreamName) hex]
      exact hw
  | drop p =>
    simp only [step]
    split
    · rename_i hp
      exact drop_conserved hS hw hp
    · exact hw
  | observe latencyMs overloaded => exact observe_conserved hw shed latencyMs overloaded

theorem run_conserved (hS : SemaphoreLaws S) (hw : Conserved S G U w) (shed : ℕ) (ops : List AdmissionOp) :
    Conserved S G U (w.run S shed ops) := by
  induction ops generalizing w with
  | nil => exact hw
  | cons op ops ih => exact ih (step_conserved hS hw shed op)

/-- the limiters as created, with the global semaphore and those of the upstreams, and no permit live -/
def init (adaptive : AdaptiveAdmission) (routeQueue : RouteQueueLimiter) (global : σ) (upstreams : List (String × σ)) :
    AdmissionWorld σ :=
  ⟨⟨adaptive, routeQueue, global, upstreams⟩, []⟩

/-- the permits available in each upstream's semaphore -/
def available (S : SemaphoreOps σ) (upstreams : List (String × σ)) : List (String × ℕ) :=
  upstreams.map fun u => (u.1, S.availablePermits u.2)

theorem init_conserved (S : SemaphoreOps σ) {adaptive : AdaptiveAdmission} (hfresh : adaptive.inflight = 0) (defaultCap globalCap : ℕ)
    (caps : List (String × ℕ)) (hcap : globalCap ≤ usizeMax) (global : σ) (upstreams : List (String × σ)) :
    Conserved S (S.availablePermits global) (available S upstreams)
      (init adaptive (RouteQueueLimiter.new defaultCap globalCap caps) global upstreams) := by
  refine ⟨hfresh, rfl, fun r => rfl, Nat.zero_le _, fun r => Nat.zero_le _, ?_, rfl, fun n => ?_, fun n h => ?_⟩
  · exact max_le hcap (by decide)
  · rw [available, get_map_snd]
    simp [init]
  · simp [init] at h

end AdmissionWorld

/-- every call that is rejected in state `s` leaves `s` as it was -/
def RejectionsRestore {σ : Type} (S : SemaphoreOps σ) (shed : ℕ) (s : AdmissionState σ) : Prop :=
  ∀ upstreamName upstreamPool backendIndex pending s' rejection,
    executeForwardingPostAuthAdmission S shed s upstreamName upstreamPool backendIndex pending =
      (s', .rejected rejection) → s' = s

open AdmissionWorld in
theorem admission_counters_conserved {σ : Type} (S : SemaphoreOps σ) (hS : SemaphoreLaws S) (shed : ℕ)
    (adaptive : AdaptiveAdmission) (defaultCap globalCap : ℕ) (caps : List (String × ℕ)) (global : σ)
    (upstreams : List (String × σ)) (hfresh : adaptive.inflight = 0) (hcap : globalCap ≤ usizeMax)
    (ops : List AdmissionOp) :
    Conserved S (S.availablePermits global) (available S upstreams)
        ((init adaptive (RouteQueueLimiter.new defaultCap globalCap caps) global upstreams).run S shed ops) ∧
      RejectionsRestore S shed
        ((init adaptive (RouteQueueLimiter.new defaultCap globalCap caps) global upstreams).run S shed ops).state := by
  have hw := run_conserved hS (init_conserved S hfresh defaultCap globalCap caps hcap global upstreams) shed ops
  exact ⟨hw, fun upstreamName _ _ _ _ _ hex => execute_rejected hS (hw.restorable upstreamName) hex⟩

/-- two admissions to `api` over one healthy backend, a third refused by the adaptive limit of 2, then one drop -/
def sampleOps : List AdmissionOp :=
  [.execute "api" (some Lb.BackendPool.loneBackend) none 0, .execute "api" (some Lb.BackendPool.loneBackend) none 0,
    .execute "api" (some Lb.BackendPool.loneBackend) none 0, .drop .adaptive]

/-- a semaphore that is its number of available permits, as tokio's is while no task waits on it -/
def countingSemaphore : SemaphoreOps ℕ :=
  ⟨fun available => if available = 0 then none else some (available - 1), (· + 1), id⟩

theorem countingSemaphore_laws : SemaphoreLaws countingSemaphore where
  acquire_available s s' h := by
    simp only [countingSemaphore] at h
    split at h
    · cases h
    · cases h
      change s - 1 + 1 = s
      omega
  release_acquire s s' h := by
    simp only [countingSemaphore] at h
    split at h
    · cases h
    · cases h
      change s - 1 + 1 = s
      omega
  release_available _ := rfl

theorem sample_admissions_conserved :
    SemaphoreLaws countingSemaphore ∧ (AdaptiveAdmission.new true 1 2 1 1 100).inflight = 0 ∧ 4 ≤ usizeMax ∧
      AdmissionWorld.Conserved countingSemaphore 8 [("api", 2)]
        ((AdmissionWorld.init (AdaptiveAdmission.new true 1 2 1 1 100) (RouteQueueLimiter.new 4 4 []) 8
          [("api", 2)]).run countingSemaphore 1 sampleOps) ∧
      RejectionsRestore countingSemaphore 1 ((AdmissionWorld.init (AdaptiveAdmission.new true 1 2 1 1 100)
        (RouteQueueLimiter.new 4 4 []) 8 [("api", 2)]).run countingSemaphore 1 sampleOps).state :=
  ⟨countingSemaphore_laws, rfl, by decide,
    admission_counters_conserved countingSemaphore countingSemaphore_laws 1 _ 4 4 [] 8 [("api", 2)] rfl (by decide)
      sampleOps⟩

example : ((AdmissionWorld.init (AdaptiveAdmission.new true 1 2 1 1 100) (RouteQueueLimiter.new 4 4 []) 8
    [("api", 2)]).run countingSemaphore 1 sampleOps).live.length = 7 := by decide

end Spooky.Edge
