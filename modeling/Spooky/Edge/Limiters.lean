/-
The admission limiters of the edge (`crates/edge/src/resilience/adaptive_admission.rs`,
`crates/edge/src/resilience/route_queue.rs`), and the calls on tokio's `Semaphore` made beside them, as parameters
(`SemaphoreOps`) with the laws the results assume of them (`SemaphoreLaws`).

Each limiter hands out permits and takes one back when a permit is dropped. Runs are sequential: a
compare-and-swap loop succeeds at its first iteration, and no thread panics while it holds the route-queue mutex,
so that lock is never poisoned. `usize` values are natural numbers up to `usizeMax`; `fetch_sub(1)` on the adaptive
counter wraps at zero as the atomic does, and the saturating operations saturate.

Results: one spec lemma per acquire, and `releasePermit_tryAcquire` for each limiter: dropping the permit an
acquire granted gives back the state before the acquire.
-/
import Spooky.Lib.KeyedList
import Spooky.Lib.Counters

namespace Spooky.Edge

open KeyedList Counters

/-- `fetch_sub(1)` on an `AtomicUsize`: it wraps at zero -/
def wrappingPred (n : ℕ) : ℕ := if n = 0 then usizeMax else n - 1

@[simp] theorem wrappingPred_succ (n : ℕ) : wrappingPred (n + 1) = n := by
  simp [wrappingPred]

/-! ## Adaptive admission -/

structure AdaptiveAdmission where
  enabled : Bool
  minLimit : ℕ
  maxLimit : ℕ
  increaseStep : ℕ
  decreaseStep : ℕ
  highLatencyMs : ℕ
  currentLimit : ℕ
  inflight : ℕ
deriving DecidableEq, Repr

namespace AdaptiveAdmission

def new (enabled : Bool) (minLimit maxLimit increaseStep decreaseStep highLatencyMs : ℕ) : AdaptiveAdmission :=
  let maxLimit := max maxLimit 1
  let minLimit := min (max minLimit 1) maxLimit
  ⟨enabled, minLimit, maxLimit, max increaseStep 1, max decreaseStep 1, max highLatencyMs 1, maxLimit, 0⟩

/-- `try_acquire`: the state after the permit is granted, or none -/
def tryAcquire (a : AdaptiveAdmission) : Option AdaptiveAdmission :=
  if max a.currentLimit 1 ≤ a.inflight then none else some { a with inflight := a.inflight + 1 }

/-- `observe`, with the latency in whole milliseconds -/
def observe (a : AdaptiveAdmission) (latencyMs : ℕ) (overloaded : Bool) : AdaptiveAdmission :=
  if !a.enabled then a
  else
    let decrease := overloaded || decide (a.highLatencyMs ≤ latencyMs)
    let next :=
      if decrease then max (a.currentLimit - a.decreaseStep) a.minLimit
      else min (min (a.currentLimit + a.increaseStep) usizeMax) a.maxLimit
    -- `next == cur` returns without a store, which leaves the same state
    { a with currentLimit := next }

/-- `AdaptivePermit::drop` -/
def releasePermit (a : AdaptiveAdmission) : AdaptiveAdmission := { a with inflight := wrappingPred a.inflight }

theorem tryAcquire_eq_some {a a' : AdaptiveAdmission} :
    a.tryAcquire = some a' ↔ a.inflight < max a.currentLimit 1 ∧ a' = { a with inflight := a.inflight + 1 } := by
  unfold tryAcquire
  split
  · rename_i hle
    simp only [reduceCtorEq, false_iff, not_and]
    intro hlt
    omega
  · simp only [Option.some.injEq]
    constructor
    · rintro rfl
      exact ⟨by omega, rfl⟩
    · rintro ⟨-, rfl⟩
      rfl

theorem releasePermit_tryAcquire {a a' : AdaptiveAdmission} (h : a.tryAcquire = some a') : a'.releasePermit = a := by
  obtain ⟨-, rfl⟩ := tryAcquire_eq_some.1 h
  simp [releasePermit]

@[simp] theorem observe_inflight (a : AdaptiveAdmission) (latencyMs : ℕ) (overloaded : Bool) :
    (a.observe latencyMs overloaded).inflight = a.inflight := by
  unfold observe
  split <;> rfl

@[simp] theorem releasePermit_inflight (a : AdaptiveAdmission) : a.releasePermit.inflight = wrappingPred a.inflight :=
  rfl

end AdaptiveAdmission

/-! ## Route queue -/

inductive RouteQueueRejection where
  | globalCap
  | routeCap
deriving DecidableEq, Repr

/-- the limiter's configuration with the state behind its mutex (`total`, `by_route`) -/
structure RouteQueueLimiter where
  defaultCap : ℕ
  globalCap : ℕ
  caps : List (String × ℕ)
  total : ℕ
  byRoute : List (String × ℕ)
deriving DecidableEq, Repr

namespace RouteQueueLimiter

def new (defaultCap globalCap : ℕ) (caps : List (String × ℕ)) : RouteQueueLimiter :=
  ⟨max defaultCap 1, max globalCap 1, caps, 0, []⟩

/-- the cap of a route: its configured cap or the default, at least 1 -/
def cap (l : RouteQueueLimiter) (route : String) : ℕ := max ((get route l.caps).getD l.defaultCap) 1

/-- `try_acquire`: the state after the permit is granted, or the rejection -/
def tryAcquire (l : RouteQueueLimiter) (route : String) : Except RouteQueueRejection RouteQueueLimiter :=
  if l.globalCap ≤ l.total then .error .globalCap
  else
    let current := (get route l.byRoute).getD 0
    if l.cap route ≤ current then .error .routeCap
    else .ok { l with total := min (l.total + 1) usizeMax, byRoute := upsert route (current + 1) l.byRoute }

/-- `RouteQueuePermit::drop`: a route without an entry is left alone, `total` included -/
def releasePermit (l : RouteQueueLimiter) (route : String) : RouteQueueLimiter :=
  match get route l.byRoute with
  | some current =>
    let current := current - 1
    let byRoute := set route current l.byRoute
    { l with byRoute := if current = 0 then erase route byRoute else byRoute, total := l.total - 1 }
  | none => l

theorem tryAcquire_eq_ok {l l' : RouteQueueLimiter} {route : String} :
    l.tryAcquire route = .ok l' ↔ l.total < l.globalCap ∧ (get route l.byRoute).getD 0 < l.cap route ∧
      l' = { l with total := min (l.total + 1) usizeMax,
                    byRoute := upsert route ((get route l.byRoute).getD 0 + 1) l.byRoute } := by
  unfold tryAcquire
  split
  · simp_all [reduceCtorEq]
  · dsimp only
    split
    · simp_all [reduceCtorEq]
    · simp_all [Except.ok.injEq, eq_comm]

/-- dropping the permit just granted restores the state, provided `by_route` holds no zero count for the route -/
theorem releasePermit_tryAcquire {l l' : RouteQueueLimiter} {route : String} (h : l.tryAcquire route = .ok l')
    (hzero : get route l.byRoute ≠ some 0) (hmax : l.globalCap ≤ usizeMax) : l'.releasePermit route = l := by
  obtain ⟨htotal, -, rfl⟩ := tryAcquire_eq_ok.1 h
  have hsat : min (l.total + 1) usizeMax = l.total + 1 := min_eq_left (by omega)
  cases hc : get route l.byRoute with
  | none =>
    -- a fresh entry at 1, erased again at 0
    simp [releasePermit, hsat, hc, upsert, KeyedList.get, KeyedList.set, erase_cons, erase_of_get_none hc]
  | some c =>
    -- the entry goes back from `c + 1` to `c`, which is not zero
    have hc0 : c ≠ 0 := fun h0 => hzero (h0 ▸ hc)
    simp [releasePermit, hsat, hc, upsert, hc0, set_set, set_of_get hc]

end RouteQueueLimiter

/-! ## The semaphore -/

/-- the calls on tokio's `Semaphore` that admission makes, over the semaphore's state `σ`; tokio is not part of the
repository, so its operations are parameters and the results assume of them only `SemaphoreLaws` -/
structure SemaphoreOps (σ : Type) where
  /-- `Arc<Semaphore>::try_acquire_owned()`: the semaphore after it grants a permit, or none when it refuses -/
  tryAcquireOwned : σ → Option σ
  /-- the `Drop` of an `OwnedSemaphorePermit` of the semaphore -/
  release : σ → σ
  /-- `available_permits()` -/
  availablePermits : σ → ℕ

/-- what tokio documents of its semaphore, as far as the admission path relies on it -/
structure SemaphoreLaws {σ : Type} (S : SemaphoreOps σ) : Prop where
  /-- a granted permit is taken from the available ones -/
  acquire_available : ∀ s s', S.tryAcquireOwned s = some s' → S.availablePermits s' + 1 = S.availablePermits s
  /-- dropping the permit just granted gives the semaphore back as it was -/
  release_acquire : ∀ s s', S.tryAcquireOwned s = some s' → S.release s' = s
  /-- a dropped permit is available again -/
  release_available : ∀ s, S.availablePermits (S.release s) = S.availablePermits s + 1

end Spooky.Edge
