/-
Per-backend health state of the load balancer (`crates/lb/src/backend.rs`, `crates/lb/src/health.rs`).

A `BackendState` is healthy or unhealthy. `record_failure` counts consecutive failures and ejects the backend for a
cooldown once the failure threshold is reached; `record_success` re-admits it after the cooldown once enough successes
have been seen; `readmit_if_expired` re-admits it outright once its cooldown has elapsed. `Instant::now()` is an input:
instants are nanoseconds on a monotonic clock, and a `Duration::from_millis(ms)` is `ms * 1000000` of them.

Left out: `active_requests` and `ewma_latency_ms` (read by the pick algorithms and `finish_request`, which no claim
here models), and the `path`, `timeout_ms` fields of the configured health check.
-/
import Mathlib.Tactic
import Spooky.Lib.Counters

namespace Spooky.Lb

open Counters

/-! ## Configuration -/

/-- the fields of the configured health check that the backend state reads -/
structure HealthCheck where
  interval : ℕ
  failureThreshold : ℕ
  successThreshold : ℕ
  cooldownMs : ℕ
deriving DecidableEq, Repr

/-- a configured backend (`spooky_config::config::Backend`; its `id` is never read here) -/
structure Backend where
  address : String
  weight : ℕ
  healthCheck : Option HealthCheck
deriving DecidableEq, Repr

inductive HealthFailureReason where
  | httpStatus5xx
  | timeout
  | transport
  | tls
  | circuitOpen
deriving DecidableEq, Repr

inductive HealthState where
  | healthy
  | unhealthy (untilAt : ℕ) (successes : ℕ) (reason : HealthFailureReason)
deriving DecidableEq, Repr

inductive HealthTransition where
  | becameHealthy
  | becameUnhealthy
deriving DecidableEq, Repr

/-- one millisecond in clock ticks -/
def nanosPerMilli : ℕ := 1000000

structure BackendState where
  address : String
  weight : ℕ
  healthCheck : Option HealthCheck
  consecutiveFailures : ℕ
  healthState : HealthState
deriving DecidableEq, Repr

namespace BackendState

def new (backend : Backend) : BackendState :=
  ⟨backend.address, max backend.weight 1, backend.healthCheck, 0, .healthy⟩

def isHealthy (b : BackendState) : Bool :=
  match b.healthState with
  | .healthy => true
  | .unhealthy .. => false

def hasActiveHealthCheck (b : BackendState) : Bool :=
  match b.healthCheck with
  | some hc => 0 < hc.interval
  | none => false

/-- `record_success` at clock value `now` -/
def recordSuccess (now : ℕ) (b : BackendState) : BackendState × Option HealthTransition :=
  match b.healthState with
  | .healthy => ({ b with consecutiveFailures := 0 }, none)
  | .unhealthy untilAt successes reason =>
    if now < untilAt then (b, none)
    else
      -- `*successes += 1` is written back even when the threshold is not reached yet
      let successes := successes + 1
      let successThreshold := (b.healthCheck.map HealthCheck.successThreshold).getD 1
      if successThreshold ≤ successes then
        ({ b with consecutiveFailures := 0, healthState := .healthy }, some .becameHealthy)
      else ({ b with healthState := .unhealthy untilAt successes reason }, none)

/-- `record_failure` at clock value `now` -/
def recordFailure (now : ℕ) (reason : HealthFailureReason) (b : BackendState) :
    BackendState × Option HealthTransition :=
  let failures := min (b.consecutiveFailures + 1) u32Max
  let threshold := (b.healthCheck.map HealthCheck.failureThreshold).getD 3
  if failures < threshold then ({ b with consecutiveFailures := failures }, none)
  else
    let cooldown := (b.healthCheck.map HealthCheck.cooldownMs).getD 10000 * nanosPerMilli
    ({ b with consecutiveFailures := 0, healthState := .unhealthy (now + cooldown) 0 reason }, some .becameUnhealthy)

def cooldownUntil (b : BackendState) : Option ℕ :=
  match b.healthState with
  | .healthy => none
  | .unhealthy untilAt _ _ => some untilAt

/-- `readmit_if_expired`: the new state and whether the backend was re-admitted -/
def readmitIfExpired (now : ℕ) (b : BackendState) : BackendState × Bool :=
  match b.healthState with
  | .unhealthy untilAt _ _ =>
    if untilAt ≤ now then ({ b with consecutiveFailures := 0, healthState := .healthy }, true) else (b, false)
  | .healthy => (b, false)

/-! ## What each operation does to health and to the fixed fields -/

@[simp] theorem isHealthy_new (backend : Backend) : (new backend).isHealthy = true := rfl

theorem isHealthy_iff (b : BackendState) : b.isHealthy = true ↔ b.healthState = .healthy := by
  cases h : b.healthState <;> simp [isHealthy, h]

/-- the address, weight and health-check configuration never change -/
structure SameConfig (b b' : BackendState) : Prop where
  address : b'.address = b.address
  weight : b'.weight = b.weight
  healthCheck : b'.healthCheck = b.healthCheck

theorem recordSuccess_config (now : ℕ) (b : BackendState) : SameConfig b (b.recordSuccess now).1 := by
  unfold recordSuccess
  split
  · exact ⟨rfl, rfl, rfl⟩
  · split
    · exact ⟨rfl, rfl, rfl⟩
    · dsimp only
      split <;> exact ⟨rfl, rfl, rfl⟩

theorem recordFailure_config (now : ℕ) (reason : HealthFailureReason) (b : BackendState) :
    SameConfig b (b.recordFailure now reason).1 := by
  unfold recordFailure
  dsimp only
  split <;> exact ⟨rfl, rfl, rfl⟩

theorem readmitIfExpired_config (now : ℕ) (b : BackendState) : SameConfig b (b.readmitIfExpired now).1 := by
  unfold readmitIfExpired
  split
  · split <;> exact ⟨rfl, rfl, rfl⟩
  · exact ⟨rfl, rfl, rfl⟩

/-- a success never ejects a backend -/
theorem recordSuccess_keeps_healthy (now : ℕ) (b : BackendState) (h : b.isHealthy = true) :
    (b.recordSuccess now).1.isHealthy = true := by
  rw [isHealthy_iff] at h
  simp [recordSuccess, h, isHealthy]

/-- a failure never re-admits a backend -/
theorem recordFailure_keeps_unhealthy (now : ℕ) (reason : HealthFailureReason) (b : BackendState)
    (h : b.isHealthy = false) : (b.recordFailure now reason).1.isHealthy = false := by
  unfold recordFailure
  dsimp only
  split
  · exact h
  · rfl

/-- re-admission reports exactly the transitions from unhealthy to healthy -/
theorem readmitIfExpired_spec (now : ℕ) (b : BackendState) :
    ((b.readmitIfExpired now).2 = true → b.isHealthy = false ∧ (b.readmitIfExpired now).1.isHealthy = true) ∧
      ((b.readmitIfExpired now).2 = false → (b.readmitIfExpired now).1 = b) := by
  unfold readmitIfExpired
  split
  · rename_i h
    split <;> simp [isHealthy, h]
  · simp

end BackendState

end Spooky.Lb
