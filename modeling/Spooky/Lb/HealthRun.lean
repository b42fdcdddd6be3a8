/-
Runs of health events on one backend (`crates/lb/src/backend.rs`: `record_success`, `record_failure`), against the
documented state machine (`docs/user-guide/load-balancing.md`, "Health State Machine": a backend is ejected after
`failure_threshold` consecutive failures and readmitted after `success_threshold` consecutive successes once the
cooldown has expired).

An event is a success or a failure at a clock value; `runHealth` folds the events over a backend state.

While the backend is healthy its failure counter is the number of failures since the last success
(`countsFailures_run`), so it is ejected exactly at the failure that completes `failure_threshold` consecutive
failures (`becomes_unhealthy_iff`). While it is unhealthy a failure below the threshold leaves the success count as it
is (`recordFailure_healthState`), so successes separated by failures still add up to a readmission
(`interrupted_successes_readmit`).
-/
import Spooky.Lb.Backend

namespace Spooky.Lb

open Counters

inductive HealthEvent where
  | success (now : ℕ)
  | failure (now : ℕ) (reason : HealthFailureReason)
deriving DecidableEq, Repr

namespace HealthEvent

def isFailure : HealthEvent → Bool
  | .success _ => false
  | .failure _ _ => true

end HealthEvent

/-- the failures at the end of a history, that is since its last success -/
def trailingFailures (events : List HealthEvent) : ℕ := (events.reverse.takeWhile HealthEvent.isFailure).length

@[simp] theorem trailingFailures_nil : trailingFailures [] = 0 := rfl

@[simp] theorem trailingFailures_success (events : List HealthEvent) (now : ℕ) :
    trailingFailures (events ++ [.success now]) = 0 := by
  simp [trailingFailures, HealthEvent.isFailure]

@[simp] theorem trailingFailures_failure (events : List HealthEvent) (now : ℕ) (reason : HealthFailureReason) :
    trailingFailures (events ++ [.failure now reason]) = trailingFailures events + 1 := by
  simp [trailingFailures, List.takeWhile_cons, HealthEvent.isFailure]

namespace BackendState

def applyEvent (b : BackendState) : HealthEvent → BackendState
  | .success now => (b.recordSuccess now).1
  | .failure now reason => (b.recordFailure now reason).1

def runHealth (b : BackendState) (events : List HealthEvent) : BackendState := events.foldl applyEvent b

@[simp] theorem runHealth_nil (b : BackendState) : b.runHealth [] = b := rfl

@[simp] theorem runHealth_append_singleton (b : BackendState) (events : List HealthEvent) (e : HealthEvent) :
    b.runHealth (events ++ [e]) = (b.runHealth events).applyEvent e := by
  simp [runHealth]

theorem applyEvent_healthCheck (b : BackendState) (e : HealthEvent) : (b.applyEvent e).healthCheck = b.healthCheck := by
  cases e with
  | success now => exact (recordSuccess_config now b).healthCheck
  | failure now reason => exact (recordFailure_config now reason b).healthCheck

theorem runHealth_healthCheck (b : BackendState) (events : List HealthEvent) :
    (b.runHealth events).healthCheck = b.healthCheck := by
  induction events using List.reverseRecOn with
  | nil => rfl
  | append_singleton events e ih => rw [runHealth_append_singleton, applyEvent_healthCheck, ih]

/-! ## Ejection -/

/-- what a failure does to a healthy backend whose counter stays below a threshold the `u32` range holds -/
theorem recordFailure_of_healthy {b : BackendState} {hc : HealthCheck} (hhc : b.healthCheck = some hc)
    (hmax : hc.failureThreshold ≤ u32Max) (hlt : b.consecutiveFailures < hc.failureThreshold) (now : ℕ)
    (reason : HealthFailureReason) :
    (b.recordFailure now reason).1.isHealthy = (decide (b.consecutiveFailures + 1 < hc.failureThreshold) && b.isHealthy) ∧
      (b.consecutiveFailures + 1 < hc.failureThreshold →
        (b.recordFailure now reason).1.consecutiveFailures = b.consecutiveFailures + 1) := by
  -- the counter does not saturate below the threshold
  have hmin : min (b.consecutiveFailures + 1) u32Max = b.consecutiveFailures + 1 := min_eq_left (by omega)
  unfold recordFailure
  simp only [hmin, hhc, Option.map_some, Option.getD_some]
  split
  · rename_i hnext
    refine ⟨?_, fun _ => rfl⟩
    simp only [hnext, decide_true, Bool.true_and]
    rfl
  · rename_i hnext
    simp [hnext, isHealthy]

/-- a success that leaves the backend healthy leaves its failure counter at zero -/
theorem recordSuccess_counter {b : BackendState} {now : ℕ} (h : (b.recordSuccess now).1.isHealthy = true) :
    (b.recordSuccess now).1.consecutiveFailures = 0 := by
  cases hs : b.healthState with
  | healthy => simp [recordSuccess, hs]
  | unhealthy untilAt successes reason =>
    simp only [recordSuccess, hs] at h ⊢
    split_ifs at h ⊢
    · simp [isHealthy, hs] at h
    · rfl
    · simp [isHealthy] at h

/-- in the healthy state the failure counter counts the failures since the last success, below the threshold -/
def CountsFailures (threshold : ℕ) (events : List HealthEvent) (b : BackendState) : Prop :=
  b.isHealthy = true → b.consecutiveFailures = trailingFailures events ∧ b.consecutiveFailures < threshold

theorem countsFailures_step {b : BackendState} {hc : HealthCheck} {events : List HealthEvent}
    (hhc : b.healthCheck = some hc) (h1 : 1 ≤ hc.failureThreshold) (hmax : hc.failureThreshold ≤ u32Max)
    (h : CountsFailures hc.failureThreshold events b) (e : HealthEvent) :
    CountsFailures hc.failureThreshold (events ++ [e]) (b.applyEvent e) := by
  intro hh
  cases e with
  | success now =>
    -- a success that leaves the backend healthy clears the counter
    simp only [applyEvent] at hh ⊢
    rw [recordSuccess_counter hh, trailingFailures_success]
    exact ⟨rfl, h1⟩
  | failure now reason =>
    -- a failure never readmits, so the backend was healthy and the count went up by one
    have hb : b.isHealthy = true := by
      by_contra hb
      have := recordFailure_keeps_unhealthy now reason b (by simpa using hb)
      simp [applyEvent, this] at hh
    obtain ⟨hcount, hlt⟩ := h hb
    obtain ⟨hhealthy, hnext⟩ := recordFailure_of_healthy hhc hmax hlt now reason
    simp only [applyEvent] at hh ⊢
    rw [hhealthy, hb, Bool.and_true, decide_eq_true_eq] at hh
    rw [hnext hh, hcount, trailingFailures_failure]
    exact ⟨rfl, by omega⟩

theorem countsFailures_run {b : BackendState} {hc : HealthCheck} (hhc : b.healthCheck = some hc)
    (h1 : 1 ≤ hc.failureThreshold) (hmax : hc.failureThreshold ≤ u32Max) (hcf : b.consecutiveFailures = 0)
    (events : List HealthEvent) : CountsFailures hc.failureThreshold events (b.runHealth events) := by
  induction events using List.reverseRecOn with
  | nil =>
    intro _
    rw [runHealth_nil, hcf, trailingFailures_nil]
    exact ⟨rfl, h1⟩
  | append_singleton events e ih =>
    rw [runHealth_append_singleton]
    exact countsFailures_step ((runHealth_healthCheck b events).trans hhc) h1 hmax ih e

/-- from a fresh healthy state, a healthy backend is ejected exactly by the failure that completes
`failure_threshold` consecutive failures -/
theorem becomes_unhealthy_iff {b : BackendState} {hc : HealthCheck} (hhc : b.healthCheck = some hc)
    (h1 : 1 ≤ hc.failureThreshold) (hmax : hc.failureThreshold ≤ u32Max) (hcf : b.consecutiveFailures = 0)
    (events : List HealthEvent) (e : HealthEvent) (hh : (b.runHealth events).isHealthy = true) :
    (b.runHealth (events ++ [e])).isHealthy = false ↔
      e.isFailure = true ∧ hc.failureThreshold ≤ trailingFailures (events ++ [e]) := by
  obtain ⟨hcount, hlt⟩ := countsFailures_run hhc h1 hmax hcf events hh
  rw [runHealth_append_singleton]
  cases e with
  | success now =>
    have := recordSuccess_keeps_healthy now _ hh
    simp [applyEvent, this, HealthEvent.isFailure]
  | failure now reason =>
    obtain ⟨hhealthy, -⟩ :=
      recordFailure_of_healthy ((runHealth_healthCheck b events).trans hhc) hmax hlt now reason
    simp only [applyEvent, hhealthy, hh, Bool.and_true, HealthEvent.isFailure, trailingFailures_failure, ← hcount,
      true_and, decide_eq_false_iff_not, not_lt]

/-! ## Readmission -/

/-- a failure that does not reach the threshold leaves the health state, and so the success count, as it is -/
theorem recordFailure_healthState {b : BackendState} {now : ℕ} {reason : HealthFailureReason}
    (h : min (b.consecutiveFailures + 1) u32Max < (b.healthCheck.map HealthCheck.failureThreshold).getD 3) :
    (b.recordFailure now reason).1.healthState = b.healthState := by
  simp [recordFailure, h]

/-- the documented defaults for thresholds and cooldown, on one backend -/
def probedBackend : BackendState := new ⟨"10.0.0.1:1", 1, some ⟨5000, 3, 2, 5000⟩⟩

/-- three failures at time zero eject the backend until 5000 ms -/
def ejection : List HealthEvent := [.failure 0 .timeout, .failure 0 .timeout, .failure 0 .timeout]

theorem third_failure_ejects :
    (probedBackend.runHealth ([.failure 0 .timeout, .failure 0 .timeout] ++ [.failure 0 .timeout])).isHealthy = false ↔
      (HealthEvent.failure 0 .timeout).isFailure = true ∧
        3 ≤ trailingFailures ([.failure 0 .timeout, .failure 0 .timeout] ++ [.failure 0 .timeout]) :=
  @becomes_unhealthy_iff probedBackend ⟨5000, 3, 2, 5000⟩ rfl (by decide) (by decide) rfl _ _ (by decide)

/-- after the cooldown one success, a failure and one more success readmit the backend, with no two successes in a
row -/
theorem interrupted_successes_readmit :
    (probedBackend.runHealth ejection).isHealthy = false ∧
      (probedBackend.runHealth (ejection ++ [.success 5000000000])).isHealthy = false ∧
      (probedBackend.runHealth (ejection ++ [.success 5000000000, .failure 5000000000 .timeout])).isHealthy = false ∧
      (probedBackend.runHealth
        (ejection ++ [.success 5000000000, .failure 5000000000 .timeout, .success 5000000000])).isHealthy = true := by
  decide

end BackendState

end Spooky.Lb
