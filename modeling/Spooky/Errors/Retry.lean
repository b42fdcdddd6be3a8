/-
The shared retry and hedge policy of `spooky_errors` (`crates/errors/src/retry.rs`), with the error types it
classifies (`ProxyError` of `proxy.rs`, `PoolError` of `pool.rs`). The forwarding code gathers the facts of a request
into `RetryPolicyFacts` or `HedgePolicyFacts` and these pure functions decide.

Errors keep their variants and their text payloads; the `hyper` error that `PoolError::Send` wraps is its display
text. Counters typed `u8` in the source are natural numbers.

Results (spec lemmas the dispatch model cites):
- `evaluateRetryPolicy_eq_retry_iff`: a retry is decided exactly when the error is retryable, the method idempotent,
  the body replayable, an attempt is left, the budget grants and an alternate backend is available.
- `evaluateHedgePolicy_eq_hedge_iff`, `evaluateHedgePolicy_eq_waitForPrimary_iff`: the hedge gates, in their order,
  then the primary's state; a hedge is only ever decided after the delay.
-/
import Spooky.Lb.Alternate
import Spooky.Bridge.Request

namespace Spooky.Errors

open Lb (AlternateBackendFailureReason)

/-! ## Errors -/

inductive PoolError where
  | unknownBackend (backend : String)
  | backendOverloaded (backend : String)
  | circuitOpen (backend : String)
  | send (detail : String)
  | inflightLimiterClosed
deriving DecidableEq, Repr

inductive ProxyError where
  | bridge (err : Bridge.BridgeError)
  | pool (err : PoolError)
  | transport (detail : String)
  | protocol (detail : String)
  | timeout
  | tls (detail : String)
deriving DecidableEq, Repr

/-- `matches!(err, ProxyError::Pool(PoolError::CircuitOpen(_)))` -/
def ProxyError.isCircuitOpen : ProxyError → Bool
  | .pool (.circuitOpen _) => true
  | _ => false

/-! ## Policy types -/

inductive UpstreamRetryReason where
  | timeout
  | transport
  | pool
deriving DecidableEq, Repr

inductive UpstreamTerminalErrorKind where
  | poolSend
  | tls
  | protocol
  | bridge
deriving DecidableEq, Repr

inductive UpstreamRetryability where
  | retryable (reason : UpstreamRetryReason)
  | terminal (kind : UpstreamTerminalErrorKind)
deriving DecidableEq, Repr

inductive RetryPolicyDenialReason where
  | terminalError (kind : UpstreamTerminalErrorKind)
  | methodNotIdempotent
  | requestBodyNotReplayable
  | attemptLimitReached
  | budgetDenied
  | alternateBackendUnavailable (reason : AlternateBackendFailureReason)
deriving DecidableEq, Repr

structure RetryPolicyFacts where
  retryability : UpstreamRetryability
  methodIdempotent : Bool
  requestBodyReplayable : Bool
  attemptCount : ℕ
  maxAttempts : ℕ
  budgetAvailable : Bool
  alternateBackendAvailable : Bool
  alternateBackendFailure : Option AlternateBackendFailureReason
deriving DecidableEq, Repr

inductive RetryPolicyDecision where
  | retry (reason : UpstreamRetryReason)
  | doNotRetry (denial : Option RetryPolicyDenialReason)
deriving DecidableEq, Repr

inductive RetryAttemptTelemetryReason where
  | timeout
  | transport
  | pool
deriving DecidableEq, Repr

/-- `impl From<UpstreamRetryReason> for RetryAttemptTelemetryReason` -/
def RetryAttemptTelemetryReason.ofUpstreamRetryReason : UpstreamRetryReason → RetryAttemptTelemetryReason
  | .timeout => .timeout
  | .transport => .transport
  | .pool => .pool

inductive HedgePrimaryState where
  | inFlightBeforeDelay
  | inFlightAfterDelay
  | completed
deriving DecidableEq, Repr

structure HedgePolicyFacts where
  hedgingConfigured : Bool
  methodAllowed : Bool
  requestBodyReplayable : Bool
  tunnelRequest : Bool
  alternateBackendAvailable : Bool
  alternateBackendFailure : Option AlternateBackendFailureReason
  budgetAvailable : Bool
  primaryState : HedgePrimaryState
deriving DecidableEq, Repr

inductive HedgePolicyDenialReason where
  | hedgingDisabled
  | primaryRequestCompleted
  | requestBodyNotReplayable
  | tunnelRequest
  | methodNotAllowed
  | alternateBackendUnavailable (reason : AlternateBackendFailureReason)
  | budgetDenied
deriving DecidableEq, Repr

inductive HedgeTriggerTelemetryReason where
  | delayElapsed
deriving DecidableEq, Repr

inductive HedgeOutcomeTelemetryReason where
  | primaryWonAfterTrigger
  | hedgeWon
deriving DecidableEq, Repr

inductive HedgePolicyDecision where
  | waitForPrimary
  | hedge (reason : HedgeTriggerTelemetryReason)
  | doNotHedge (denial : HedgePolicyDenialReason)
deriving DecidableEq, Repr

/-! ## The decisions -/

/-- `is_idempotent_method`: `to_ascii_uppercase` changes only `a` to `z`, as `Char.toUpper` does -/
def isIdempotentMethod (method : String) : Bool :=
  method.toUpper ∈ ["GET", "HEAD", "PUT", "DELETE", "OPTIONS", "TRACE"]

def classifyRetryability : ProxyError → UpstreamRetryability
  | .transport _ => .retryable .transport
  | .timeout => .retryable .timeout
  | .pool (.send _) => .terminal .poolSend
  | .pool _ => .retryable .pool
  | .tls _ => .terminal .tls
  | .protocol _ => .terminal .protocol
  | .bridge _ => .terminal .bridge

def isRetryable (err : ProxyError) : Bool :=
  match classifyRetryability err with
  | .retryable _ => true
  | .terminal _ => false

def evaluateRetryPolicy (input : RetryPolicyFacts) : RetryPolicyDecision :=
  match input.retryability with
  | .terminal kind => .doNotRetry (some (.terminalError kind))
  | .retryable reason =>
    if !input.methodIdempotent then .doNotRetry (some .methodNotIdempotent)
    else if !input.requestBodyReplayable then .doNotRetry (some .requestBodyNotReplayable)
    else if input.maxAttempts ≤ input.attemptCount then .doNotRetry (some .attemptLimitReached)
    else if !input.budgetAvailable then .doNotRetry (some .budgetDenied)
    else if !input.alternateBackendAvailable then
      .doNotRetry (some (.alternateBackendUnavailable (input.alternateBackendFailure.getD .onlyExcludedBackendsHealthy)))
    else .retry reason

def evaluateHedgePolicy (input : HedgePolicyFacts) : HedgePolicyDecision :=
  if !input.hedgingConfigured then .doNotHedge .hedgingDisabled
  else if !input.methodAllowed then .doNotHedge .methodNotAllowed
  else if !input.requestBodyReplayable then .doNotHedge .requestBodyNotReplayable
  else if input.tunnelRequest then .doNotHedge .tunnelRequest
  else if !input.alternateBackendAvailable then
    .doNotHedge (.alternateBackendUnavailable (input.alternateBackendFailure.getD .onlyExcludedBackendsHealthy))
  else
    match input.primaryState with
    | .completed => .doNotHedge .primaryRequestCompleted
    | .inFlightBeforeDelay => .waitForPrimary
    | .inFlightAfterDelay => if !input.budgetAvailable then .doNotHedge .budgetDenied else .hedge .delayElapsed

/-! ## What the decisions depend on -/

theorem isRetryable_iff (err : ProxyError) : isRetryable err = true ↔ ∃ reason, classifyRetryability err = .retryable reason := by
  unfold isRetryable
  split <;> simp_all

/-- the gates the hedge policy checks before it looks at the primary -/
def HedgePolicyFacts.gatesPass (input : HedgePolicyFacts) : Bool :=
  input.hedgingConfigured && input.methodAllowed && input.requestBodyReplayable && !input.tunnelRequest &&
    input.alternateBackendAvailable

/-- once the gates pass, only the primary's state and the budget decide -/
theorem evaluateHedgePolicy_of_gatesPass {input : HedgePolicyFacts} (h : input.gatesPass = true) :
    evaluateHedgePolicy input =
      match input.primaryState with
      | .completed => .doNotHedge .primaryRequestCompleted
      | .inFlightBeforeDelay => .waitForPrimary
      | .inFlightAfterDelay => if !input.budgetAvailable then .doNotHedge .budgetDenied else .hedge .delayElapsed := by
  simp only [HedgePolicyFacts.gatesPass, Bool.and_eq_true, Bool.not_eq_true'] at h
  obtain ⟨⟨⟨⟨hc, hm⟩, hr⟩, ht⟩, ha⟩ := h
  simp [evaluateHedgePolicy, hc, hm, hr, ht, ha]

/-- a failed gate is a denial, whatever the primary's state -/
theorem evaluateHedgePolicy_of_not_gatesPass {input : HedgePolicyFacts} (h : input.gatesPass = false) :
    ∃ denial, evaluateHedgePolicy input = .doNotHedge denial := by
  unfold evaluateHedgePolicy
  -- one denial per gate, in the order the source checks them
  split
  · exact ⟨_, rfl⟩
  split
  · exact ⟨_, rfl⟩
  split
  · exact ⟨_, rfl⟩
  split
  · exact ⟨_, rfl⟩
  split
  · exact ⟨_, rfl⟩
  simp_all [HedgePolicyFacts.gatesPass]

theorem gatesPass_of_ne_doNotHedge {input : HedgePolicyFacts}
    (h : ∀ denial, evaluateHedgePolicy input ≠ .doNotHedge denial) : input.gatesPass = true := by
  by_contra hg
  obtain ⟨denial, hd⟩ := evaluateHedgePolicy_of_not_gatesPass (Bool.eq_false_iff.2 hg)
  exact h denial hd

theorem evaluateHedgePolicy_eq_hedge_iff (input : HedgePolicyFacts) (reason : HedgeTriggerTelemetryReason) :
    evaluateHedgePolicy input = .hedge reason ↔
      input.gatesPass = true ∧ input.primaryState = .inFlightAfterDelay ∧ input.budgetAvailable = true := by
  constructor
  · intro h
    have hg : input.gatesPass = true := gatesPass_of_ne_doNotHedge fun denial hd => by rw [hd] at h; cases h
    rw [evaluateHedgePolicy_of_gatesPass hg] at h
    refine ⟨hg, ?_⟩
    cases hs : input.primaryState <;> cases hb : input.budgetAvailable <;> simp_all
  · rintro ⟨hg, hs, hb⟩
    cases reason
    simp [evaluateHedgePolicy_of_gatesPass hg, hs, hb]

theorem evaluateHedgePolicy_eq_waitForPrimary_iff (input : HedgePolicyFacts) :
    evaluateHedgePolicy input = .waitForPrimary ↔
      input.gatesPass = true ∧ input.primaryState = .inFlightBeforeDelay := by
  constructor
  · intro h
    have hg : input.gatesPass = true := gatesPass_of_ne_doNotHedge fun denial hd => by rw [hd] at h; cases h
    rw [evaluateHedgePolicy_of_gatesPass hg] at h
    refine ⟨hg, ?_⟩
    cases hs : input.primaryState <;> cases hb : input.budgetAvailable <;> simp_all
  · rintro ⟨hg, hs⟩
    simp [evaluateHedgePolicy_of_gatesPass hg, hs]

/-- the conditions of a retry, all of them -/
theorem evaluateRetryPolicy_eq_retry_iff (input : RetryPolicyFacts) (reason : UpstreamRetryReason) :
    evaluateRetryPolicy input = .retry reason ↔
      input.retryability = .retryable reason ∧ input.methodIdempotent = true ∧ input.requestBodyReplayable = true ∧
        input.attemptCount < input.maxAttempts ∧ input.budgetAvailable = true ∧
        input.alternateBackendAvailable = true := by
  unfold evaluateRetryPolicy
  split
  · rename_i kind hk
    simp [hk]
  · rename_i reason' hr
    -- the checks in the order the source makes them, each a denial when it fails
    simp only [hr, UpstreamRetryability.retryable.injEq]
    by_cases hi : input.methodIdempotent
    swap
    · simp [hi]
    by_cases hb : input.requestBodyReplayable
    swap
    · simp [hi, hb]
    by_cases ha : input.maxAttempts ≤ input.attemptCount
    · simp [hi, hb, ha, Nat.not_lt.2 ha]
    by_cases hbu : input.budgetAvailable
    swap
    · simp [hi, hb, ha, hbu]
    by_cases hal : input.alternateBackendAvailable
    · simp [hi, hb, ha, hbu, hal, Nat.lt_of_not_le ha]
    · simp [hi, hb, ha, hbu, hal]

end Spooky.Errors
