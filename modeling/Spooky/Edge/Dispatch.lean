/-
The forwarding task of the edge (`spawn_upstream_forward_task` and its helpers in
`crates/edge/src/quic_listener/forwarding/dispatch.rs`): it counts the request as a primary on the retry budget,
sends it to its backend through the circuit breakers and, by the shared policy of `Spooky.Errors.Retry`, either
hedges it to an alternate backend after a delay or retries it there after a failure.

What the task cannot know ahead belongs to the environment (`ForwardEnv`): the clock at each breaker check and at
each answer, the transport's answers, the websocket tunnel's result, which branch of each `tokio::select!` wins, and
whether the race polls the hedge before it takes a ready answer of the primary. Every result quantifies over all
environments. `send_upstream_request` is cut at its await: `startSend` is its breaker check, which runs at the
future's first poll, and `finishSend` the record of its answer, so a send whose future a `select!` drops never
reports to its breaker, and a hedge dropped before its first poll never asks it. The primary's check is taken when
the task starts: the first `select!` could skip its first poll only if the hedge delay had already run out, a case
the model leaves out.

The budget and the breakers are shared by all tasks; a forward makes its calls on them in its own order, and
`runForwards` runs forwards one after another. Requests are built before the task: `endpointBuilds` says for which
alternate address `build_alternate_bodyless_candidate` finds an endpoint and builds the bodyless request. The
telemetry keeps the retry count and reasons and the hedge's trigger and outcome; `primary_late_ms` is a wall-clock
metric and is left out.

Results:
- `forward_reaches_at_most_two_backends`: a forward sends to its backend and at most once more, to the alternate
  address, for a replayable request only: as a hedge once the delay passed, or as a retry of a retryable failure of an
  idempotent request; a request the hedge policy waits on is never retried.
- `retry_budget_charged_without_retry`: on the retry path, every failure of the primary other than an open circuit
  takes a retry from the budget before the policy decides, so a retry the policy refuses is charged all the same.
- `hedge_race_strands_probe`: a hedge that wins the race drops the primary's send; when that send was its backend's
  half-open probe, the breaker keeps its one probe slot taken, and no later forward is ever admitted to the backend.
-/
import Spooky.Edge.RetryBudget
import Spooky.Edge.CircuitBreaker
import Spooky.Lb.Alternate

namespace Spooky.Edge

open KeyedList Errors Lb

/-! ## The hedging gates of the resilience runtime -/

/-- the fields of `RuntimeResilience` the hedging gates read, with the brownout controller's state at the call -/
structure HedgingConfig where
  hedgingEnabled : Bool
  brownoutActive : Bool
  routeAllowlist : List String
  /-- upper-cased when the runtime is built -/
  hedgeSafeMethods : List String
deriving DecidableEq, Repr

namespace HedgingConfig

/-- the runtime built from the configuration's hedging section -/
def ofConfig (hedgingEnabled brownoutActive : Bool) (routeAllowlist safeMethods : List String) : HedgingConfig :=
  ⟨hedgingEnabled, brownoutActive, routeAllowlist, safeMethods.map String.toUpper⟩

def hedgingRouteEnabledFor (c : HedgingConfig) (route : String) : Bool :=
  if !c.hedgingEnabled || c.brownoutActive then false
  else c.routeAllowlist.isEmpty || c.routeAllowlist.contains route

def hedgingMethodAllowed (c : HedgingConfig) (method : String) : Bool := c.hedgeSafeMethods.contains method.toUpper

end HedgingConfig

/-! ## The policy of one forward -/

/-- `MAX_UPSTREAM_RETRY_ATTEMPTS` -/
def maxUpstreamRetryAttempts : ℕ := 1

inductive ResolvedAlternateBackend where
  | selected (address : String)
  | unavailable (reason : AlternateBackendFailureReason)
deriving DecidableEq, Repr

namespace ResolvedAlternateBackend

def isAvailable : ResolvedAlternateBackend → Bool
  | .selected _ => true
  | .unavailable _ => false

def failureReason : ResolvedAlternateBackend → Option AlternateBackendFailureReason
  | .selected _ => none
  | .unavailable reason => some reason

end ResolvedAlternateBackend

def alternateBackendPolicyState (alternate : Option ResolvedAlternateBackend) :
    Bool × Option AlternateBackendFailureReason :=
  (alternate.any ResolvedAlternateBackend.isAvailable, alternate.bind ResolvedAlternateBackend.failureReason)

section Resolve

variable {F : Type} [LinearOrder F] [Add F] [Mul F] [NatCast F]

/-- `resolve_alternate_backend` under the pool's read lock (a poisoned lock is left out); `none` is the panic of
`choose_alternate_backend` -/
def resolveAlternateBackend (draw : ℕ) (pool : UpstreamPool F) (primaryIndex : ℕ) : Option ResolvedAlternateBackend :=
  (chooseAlternateBackend draw pool [primaryIndex]).map fun r =>
    match r.1 with
    | .select choice =>
      match (pool.lp.pool.backends[choice.index]?).map BackendState.address with
      | some address => .selected address
      | none => .unavailable .backendAddressMissing
    | .doNotSelect denial => .unavailable denial

end Resolve

/-- `build_alternate_bodyless_candidate`: the selected alternate's address, when its endpoint is known and the
bodyless request builds for it -/
def buildAlternateBodylessCandidate (endpointBuilds : String → Bool) : Option ResolvedAlternateBackend → Option String
  | some (.selected address) => if endpointBuilds address then some address else none
  | _ => none

structure ForwardingRetryHedgePolicy where
  methodIdempotent : Bool
  bodylessMode : Bool
  hedgeMethodAllowed : Bool
  hedgeConfigured : Bool
  hedgeTunnelRequest : Bool
deriving DecidableEq, Repr

namespace ForwardingRetryHedgePolicy

variable (p : ForwardingRetryHedgePolicy)

def hedgeBeforeDelay (alternate : Option ResolvedAlternateBackend) : HedgePolicyDecision :=
  let state := alternateBackendPolicyState alternate
  evaluateHedgePolicy ⟨p.hedgeConfigured, p.hedgeMethodAllowed, p.bodylessMode, p.hedgeTunnelRequest, state.1, state.2,
    false, .inFlightBeforeDelay⟩

def hedgeAfterDelay (budgetAvailable : Bool) : HedgePolicyDecision :=
  evaluateHedgePolicy ⟨p.hedgeConfigured, p.hedgeMethodAllowed, p.bodylessMode, p.hedgeTunnelRequest, true, none,
    budgetAvailable, .inFlightAfterDelay⟩

def retryAfterError (primaryErr : ProxyError) (retryCount maxAttempts : ℕ) (budgetAvailable : Bool)
    (alternate : Option ResolvedAlternateBackend) : RetryPolicyDecision :=
  let state := alternateBackendPolicyState alternate
  evaluateRetryPolicy ⟨classifyRetryability primaryErr, p.methodIdempotent, p.bodylessMode, retryCount, maxAttempts,
    budgetAvailable, state.1, state.2⟩

end ForwardingRetryHedgePolicy

/-- `retry_budget_available_for_error`: an open circuit needs no budget; any other error asks `allow_retry`, which
takes a retry from the budget when it grants one -/
def retryBudgetAvailableForError (primaryErr : ProxyError) (route : String) (b : RetryBudget) : RetryBudget × Bool :=
  if primaryErr.isCircuitOpen then (b, true)
  else
    let r := b.allowRetry route
    (r.1, r.2.isOk)

/-! ## Telemetry -/

structure RetryTelemetry where
  count : ℕ
  attemptReason : Option RetryAttemptTelemetryReason
  denialReason : Option RetryPolicyDenialReason
deriving DecidableEq, Repr

namespace RetryTelemetry

def default : RetryTelemetry := ⟨0, none, none⟩

/-- `record_attempt`: `count` is a `u8` that saturates -/
def recordAttempt (t : RetryTelemetry) (reason : RetryAttemptTelemetryReason) : RetryTelemetry :=
  { t with count := min (t.count + 1) 255, attemptReason := some reason }

/-- `record_denial`: the first denial stays -/
def recordDenial (t : RetryTelemetry) (denialReason : Option RetryPolicyDenialReason) : RetryTelemetry :=
  if t.denialReason.isNone then { t with denialReason := denialReason } else t

end RetryTelemetry

structure HedgeTelemetry where
  triggerReason : Option HedgeTriggerTelemetryReason
  outcomeReason : Option HedgeOutcomeTelemetryReason
deriving DecidableEq, Repr

def HedgeTelemetry.default : HedgeTelemetry := ⟨none, none⟩

structure ForwardingPolicyTelemetry where
  hedge : HedgeTelemetry
  retry : RetryTelemetry
deriving DecidableEq, Repr

def ForwardingPolicyTelemetry.default : ForwardingPolicyTelemetry := ⟨.default, .default⟩

/-! ## One forward -/

/-- one send as it goes on the wire: the clock when `send_upstream_request` asks the breaker, the clock when the
transport answers, and the answer -/
structure UpstreamSend (R : Type) where
  start : ℕ
  finish : ℕ
  result : Except ProxyError R

/-- what the environment of one forward decides -/
structure ForwardEnv (R : Type) where
  primary : UpstreamSend R
  /-- the hedge or the retry -/
  second : UpstreamSend R
  /-- what `forward_http1_websocket_tunnel` returns -/
  tunnel : Except ProxyError R
  /-- the first `select!`: the primary resolves before the hedge delay -/
  primaryBeforeDelay : Bool
  /-- the second `select!`: the hedge resolves before the primary -/
  hedgeFirst : Bool
  /-- when the primary resolves first: the second `select!` polled the hedge's future before it took the primary's
  answer, rather than finding that answer ready on its first poll of the primary -/
  hedgePolled : Bool

/-- what the task knows of its request when it is spawned -/
structure ForwardRequest where
  /-- `pending_forward.upstream_name` -/
  route : String
  /-- `pending_forward.backend_addr` -/
  backend : String
  policy : ForwardingRetryHedgePolicy
  /-- `tunnel_mode == Websocket` and the endpoint's scheme is `http` -/
  websocketHttp : Bool
  /-- a downstream body channel came with the tunnel -/
  hasBodyChannel : Bool
  /-- an upstream request was built -/
  hasRequest : Bool
  alternate : Option ResolvedAlternateBackend
  endpointBuilds : String → Bool

/-- the budget and breakers every task shares, and what this task has done: its telemetry and its sends, each with
the breaker's answer -/
structure TaskState where
  budget : RetryBudget
  breakers : CircuitBreakers
  telemetry : ForwardingPolicyTelemetry
  sends : List (String × Bool)

namespace TaskState

variable {R : Type}

/-- the breaker check that opens `send_upstream_request` -/
def startSend (t : TaskState) (backend : String) (o : UpstreamSend R) : TaskState × Bool :=
  let r := t.breakers.allowRequest o.start backend
  ({ t with breakers := r.1, sends := t.sends ++ [(backend, r.2)] }, r.2)

/-- the rest of `send_upstream_request` once its send resolves: the breaker's refusal, or the transport's answer
recorded on the breaker -/
def finishSend (t : TaskState) (backend : String) (admitted : Bool) (o : UpstreamSend R) :
    TaskState × Except ProxyError R :=
  if !admitted then (t, .error (.pool (.circuitOpen backend)))
  else
    match o.result with
    | .ok response => ({ t with breakers := t.breakers.recordSuccess backend }, .ok response)
    | .error err => ({ t with breakers := t.breakers.recordFailure o.finish backend }, .error err)

def sendUpstreamRequest (t : TaskState) (backend : String) (o : UpstreamSend R) : TaskState × Except ProxyError R :=
  let r := t.startSend backend o
  r.1.finishSend backend r.2 o

/-- `record_outcome` on the task's hedge telemetry -/
def recordHedgeOutcome (t : TaskState) (reason : HedgeOutcomeTelemetryReason) : TaskState :=
  { t with telemetry := { t.telemetry with hedge := { t.telemetry.hedge with outcomeReason := some reason } } }

end TaskState

section Forward

variable {R : Type} (req : ForwardRequest) (env : ForwardEnv R)

/-- `retry_primary_error` -/
def retryPrimaryError (primaryErr : ProxyError) (t : TaskState) : TaskState × Except ProxyError R :=
  let available := retryBudgetAvailableForError primaryErr req.route t.budget
  let t := { t with budget := available.1 }
  match req.policy.retryAfterError primaryErr t.telemetry.retry.count maxUpstreamRetryAttempts available.2
      req.alternate with
  | .doNotRetry denial =>
    ({ t with telemetry := { t.telemetry with retry := t.telemetry.retry.recordDenial denial } }, .error primaryErr)
  | .retry reason =>
    match buildAlternateBodylessCandidate req.endpointBuilds req.alternate with
    | none => (t, .error primaryErr)
    | some retryBackend =>
      let t := { t with telemetry := { t.telemetry with
        retry := t.telemetry.retry.recordAttempt (.ofUpstreamRetryReason reason) } }
      t.sendUpstreamRequest retryBackend env.second

/-- the `DoNotHedge` and `Hedge` arms: the primary, then `retry_primary_error` on its failure -/
def sendPrimaryWithRetry (t : TaskState) : TaskState × Except ProxyError R :=
  let r := t.sendUpstreamRequest req.backend env.primary
  match r.2 with
  | .ok response => (r.1, .ok response)
  | .error primaryErr => retryPrimaryError req env primaryErr r.1

/-- the race of the primary, admitted or not by its breaker, and the hedge; the loser's send is dropped when the
winner answers, and awaited when the winner fails. The hedge's breaker check runs at its future's first poll, so when
the `select!` finds the primary's answer ready before it polls the hedge, the hedge asks its breaker only if a failed
primary makes the task await it -/
def hedgeRace (hedgeBackend : String) (primaryAdmitted : Bool) (t : TaskState) : TaskState × Except ProxyError R :=
  if env.hedgeFirst then
    let h := t.startSend hedgeBackend env.second
    let hr := h.1.finishSend hedgeBackend h.2 env.second
    match hr.2 with
    | .ok response => (hr.1.recordHedgeOutcome .hedgeWon, .ok response)
    | .error _ => (hr.1.recordHedgeOutcome .primaryWonAfterTrigger).finishSend req.backend primaryAdmitted env.primary
  else if env.hedgePolled then
    let h := t.startSend hedgeBackend env.second
    let pr := h.1.finishSend req.backend primaryAdmitted env.primary
    match pr.2 with
    | .ok response => (pr.1.recordHedgeOutcome .primaryWonAfterTrigger, .ok response)
    | .error _ => (pr.1.recordHedgeOutcome .hedgeWon).finishSend hedgeBackend h.2 env.second
  else
    let pr := t.finishSend req.backend primaryAdmitted env.primary
    match pr.2 with
    | .ok response => (pr.1.recordHedgeOutcome .primaryWonAfterTrigger, .ok response)
    | .error _ => (pr.1.recordHedgeOutcome .hedgeWon).sendUpstreamRequest hedgeBackend env.second

/-- the `WaitForPrimary` arm: with a hedge candidate, the primary against the hedge delay, then the hedge if the
policy and the budget allow it after the delay; without one, the primary alone -/
def waitForPrimary (t : TaskState) : TaskState × Except ProxyError R :=
  match buildAlternateBodylessCandidate req.endpointBuilds req.alternate with
  | none => t.sendUpstreamRequest req.backend env.primary
  | some hedgeBackend =>
    let p := t.startSend req.backend env.primary
    if env.primaryBeforeDelay then p.1.finishSend req.backend p.2 env.primary
    else
      let available := retryBudgetAvailableForError .timeout req.route p.1.budget
      let t := { p.1 with budget := available.1 }
      match req.policy.hedgeAfterDelay available.2 with
      | .hedge reason =>
        hedgeRace req env hedgeBackend p.2
          { t with telemetry := { t.telemetry with hedge := { t.telemetry.hedge with triggerReason := some reason } } }
      | _ => t.finishSend req.backend p.2 env.primary

/-- the spawned task of `spawn_upstream_forward_task`, on the shared budget and breakers -/
def forwardTask (budget : RetryBudget) (breakers : CircuitBreakers) : TaskState × Except ProxyError R :=
  let t : TaskState := ⟨budget.markPrimary req.route, breakers, .default, []⟩
  if req.websocketHttp then
    if !req.hasBodyChannel then (t, .error (.transport "websocket H1 tunnels require a downstream body channel"))
    else (t, env.tunnel)
  else if !req.hasRequest then (t, .error (.transport "missing upstream request for non-websocket forward"))
  else
    match req.policy.hedgeBeforeDelay req.alternate with
    | .waitForPrimary => waitForPrimary req env t
    | .doNotHedge _ => sendPrimaryWithRetry req env t
    | .hedge _ => sendPrimaryWithRetry req env t

end Forward

/-- forwards one after another on the shared budget and breakers: the state after them, and each one's sends -/
def runForwards {R : Type} (budget : RetryBudget) (breakers : CircuitBreakers) :
    List (ForwardRequest × ForwardEnv R) → RetryBudget × CircuitBreakers × List (List (String × Bool))
  | [] => (budget, breakers, [])
  | (req, env) :: rest =>
    let t := (forwardTask req env budget breakers).1
    let r := runForwards t.budget t.breakers rest
    (r.1, r.2.1, t.sends :: r.2.2)

/-! ## What each part of a send changes -/

/-- what `send_upstream_request` answers, given the breakers when it starts -/
def sendAnswer {R : Type} (cb : CircuitBreakers) (backend : String) (o : UpstreamSend R) : Except ProxyError R :=
  if (cb.allowRequest o.start backend).2 then o.result else .error (.pool (.circuitOpen backend))

namespace TaskState

variable {R : Type} {t : TaskState} {backend : String} {admitted : Bool} {o : UpstreamSend R}

@[simp] theorem startSend_budget : (t.startSend backend o).1.budget = t.budget := rfl
@[simp] theorem startSend_breakers : (t.startSend backend o).1.breakers = (t.breakers.allowRequest o.start backend).1 :=
  rfl
@[simp] theorem startSend_admitted : (t.startSend backend o).2 = (t.breakers.allowRequest o.start backend).2 := rfl
@[simp] theorem startSend_sends :
    (t.startSend backend o).1.sends = t.sends ++ [(backend, (t.breakers.allowRequest o.start backend).2)] := rfl

@[simp] theorem finishSend_budget : (t.finishSend backend admitted o).1.budget = t.budget := by
  unfold finishSend; split
  · rfl
  · split <;> rfl

@[simp] theorem finishSend_sends : (t.finishSend backend admitted o).1.sends = t.sends := by
  unfold finishSend; split
  · rfl
  · split <;> rfl

theorem finishSend_answer : (t.finishSend backend admitted o).2 =
    if admitted then o.result else .error (.pool (.circuitOpen backend)) := by
  unfold finishSend
  cases admitted
  · rfl
  · simp only [Bool.not_true, Bool.false_eq_true, if_false, if_true]
    split <;> simp_all

@[simp] theorem sendUpstreamRequest_budget : (t.sendUpstreamRequest backend o).1.budget = t.budget := by
  simp [sendUpstreamRequest]

@[simp] theorem sendUpstreamRequest_sends :
    (t.sendUpstreamRequest backend o).1.sends = t.sends ++ [(backend, (t.breakers.allowRequest o.start backend).2)] := by
  simp [sendUpstreamRequest]

theorem sendUpstreamRequest_answer : (t.sendUpstreamRequest backend o).2 = sendAnswer t.breakers backend o := by
  simp [sendUpstreamRequest, finishSend_answer, sendAnswer]

@[simp] theorem recordHedgeOutcome_budget (reason : HedgeOutcomeTelemetryReason) :
    (t.recordHedgeOutcome reason).budget = t.budget := rfl
@[simp] theorem recordHedgeOutcome_breakers (reason : HedgeOutcomeTelemetryReason) :
    (t.recordHedgeOutcome reason).breakers = t.breakers := rfl
@[simp] theorem recordHedgeOutcome_sends (reason : HedgeOutcomeTelemetryReason) :
    (t.recordHedgeOutcome reason).sends = t.sends := rfl

end TaskState

theorem retryBudgetAvailableForError_of_not_circuitOpen {e : ProxyError} (h : e.isCircuitOpen = false) (route : String)
    (b : RetryBudget) : retryBudgetAvailableForError e route b = ((b.allowRetry route).1, (b.allowRetry route).2.isOk) := by
  simp [retryBudgetAvailableForError, h]

/-- a request the hedge policy waits on passed every hedge gate: its body is replayable -/
theorem gates_of_hedgeBeforeDelay {p : ForwardingRetryHedgePolicy} {alternate : Option ResolvedAlternateBackend}
    (h : p.hedgeBeforeDelay alternate = .waitForPrimary) :
    p.hedgeConfigured = true ∧ p.hedgeMethodAllowed = true ∧ p.bodylessMode = true ∧ p.hedgeTunnelRequest = false := by
  obtain ⟨hg, -⟩ := (evaluateHedgePolicy_eq_waitForPrimary_iff _).1 h
  simp only [HedgePolicyFacts.gatesPass, Bool.and_eq_true, Bool.not_eq_true'] at hg
  exact ⟨hg.1.1.1.1, hg.1.1.1.2, hg.1.1.2, hg.1.2⟩

/-- after the delay, a request the policy waited on is hedged exactly when the budget allows -/
theorem hedgeAfterDelay_of_wait {p : ForwardingRetryHedgePolicy} {alternate : Option ResolvedAlternateBackend}
    (h : p.hedgeBeforeDelay alternate = .waitForPrimary) (budgetAvailable : Bool) :
    p.hedgeAfterDelay budgetAvailable =
      if budgetAvailable then .hedge .delayElapsed else .doNotHedge .budgetDenied := by
  obtain ⟨hc, hm, hb, ht⟩ := gates_of_hedgeBeforeDelay h
  cases budgetAvailable <;>
    simp [ForwardingRetryHedgePolicy.hedgeAfterDelay, evaluateHedgePolicy, hc, hm, hb, ht]

theorem retryBudgetAvailableForError_snd (e : ProxyError) (route : String) (b : RetryBudget) :
    (retryBudgetAvailableForError e route b).2 = (e.isCircuitOpen || (b.allowRetry route).2.isOk) := by
  unfold retryBudgetAvailableForError
  cases e.isCircuitOpen <;> rfl

/-! ## The sends of each arm -/

section Arms

variable {R : Type} (req : ForwardRequest) (env : ForwardEnv R)

/-- the retry path asks the budget first, whatever follows; a retry goes to the alternate candidate, for a retryable
failure of an idempotent, replayable request that the budget or an open circuit let through -/
theorem retryPrimaryError_spec (e : ProxyError) (t : TaskState) :
    (retryPrimaryError req env e t).1.budget = (retryBudgetAvailableForError e req.route t.budget).1 ∧
      ((retryPrimaryError req env e t).1.sends = t.sends ∨
        ∃ second, buildAlternateBodylessCandidate req.endpointBuilds req.alternate = some second ∧
          req.policy.bodylessMode = true ∧ req.policy.methodIdempotent = true ∧ isRetryable e = true ∧
          (retryBudgetAvailableForError e req.route t.budget).2 = true ∧
          (retryPrimaryError req env e t).1.sends.map Prod.fst = t.sends.map Prod.fst ++ [second]) := by
  unfold retryPrimaryError
  dsimp only
  split
  · exact ⟨rfl, .inl rfl⟩
  · rename_i reason hdec
    obtain ⟨hretry, hidem, hbody, -, hbudget, -⟩ := (evaluateRetryPolicy_eq_retry_iff _ _).1 hdec
    split
    · exact ⟨rfl, .inl rfl⟩
    · rename_i second hcand
      exact ⟨by simp, .inr ⟨second, hcand, hbody, hidem, (isRetryable_iff e).2 ⟨reason, hretry⟩, hbudget, by simp⟩⟩

theorem sendPrimaryWithRetry_of_ok {t : TaskState} {response : R}
    (h : sendAnswer t.breakers req.backend env.primary = .ok response) :
    sendPrimaryWithRetry req env t = ((t.sendUpstreamRequest req.backend env.primary).1, .ok response) := by
  unfold sendPrimaryWithRetry
  dsimp only
  rw [TaskState.sendUpstreamRequest_answer, h]

theorem sendPrimaryWithRetry_of_error {t : TaskState} {e : ProxyError}
    (h : sendAnswer t.breakers req.backend env.primary = .error e) :
    sendPrimaryWithRetry req env t = retryPrimaryError req env e (t.sendUpstreamRequest req.backend env.primary).1 := by
  unfold sendPrimaryWithRetry
  dsimp only
  rw [TaskState.sendUpstreamRequest_answer, h]

theorem sendPrimaryWithRetry_spec (t : TaskState) :
    (sendPrimaryWithRetry req env t).1.sends.map Prod.fst = t.sends.map Prod.fst ++ [req.backend] ∨
      ∃ second e, buildAlternateBodylessCandidate req.endpointBuilds req.alternate = some second ∧
        req.policy.bodylessMode = true ∧ req.policy.methodIdempotent = true ∧
        sendAnswer t.breakers req.backend env.primary = .error e ∧ isRetryable e = true ∧
        (retryBudgetAvailableForError e req.route t.budget).2 = true ∧
        (sendPrimaryWithRetry req env t).1.sends.map Prod.fst = t.sends.map Prod.fst ++ [req.backend, second] := by
  cases h : sendAnswer t.breakers req.backend env.primary with
  | ok response =>
    rw [sendPrimaryWithRetry_of_ok req env h]
    exact .inl (by simp)
  | error e =>
    rw [sendPrimaryWithRetry_of_error req env h]
    rcases (retryPrimaryError_spec req env e (t.sendUpstreamRequest req.backend env.primary).1).2 with
      hsame | ⟨second, hcand, hbody, hidem, hretry, hbudget, hsends⟩
    · exact .inl (by simp [hsame])
    · exact .inr ⟨second, e, hcand, hbody, hidem, rfl, hretry, by simpa using hbudget, by simpa using hsends⟩

/-- the race sends the hedge, unless the primary's ready answer was taken before the hedge was polled -/
theorem hedgeRace_sends (hedgeBackend : String) (primaryAdmitted : Bool) (t : TaskState) :
    (hedgeRace req env hedgeBackend primaryAdmitted t).1.sends.map Prod.fst = t.sends.map Prod.fst ++ [hedgeBackend] ∨
      env.hedgeFirst = false ∧ env.hedgePolled = false ∧
        (hedgeRace req env hedgeBackend primaryAdmitted t).1.sends = t.sends := by
  unfold hedgeRace
  split
  · dsimp only
    left
    split <;> simp
  · rename_i hfirst
    split
    · dsimp only
      left
      split <;> simp
    · rename_i hpolled
      dsimp only
      split
      · exact .inr ⟨by simpa using hfirst, by simpa using hpolled, by simp⟩
      · left
        simp

/-- with a hedge candidate, the primary goes first and the hedge follows only after the delay, with a retry the budget
granted -/
theorem waitForPrimary_spec (t : TaskState) :
    (waitForPrimary req env t).1.sends.map Prod.fst = t.sends.map Prod.fst ++ [req.backend] ∨
      ∃ second, buildAlternateBodylessCandidate req.endpointBuilds req.alternate = some second ∧
        env.primaryBeforeDelay = false ∧ (retryBudgetAvailableForError .timeout req.route t.budget).2 = true ∧
        (waitForPrimary req env t).1.sends.map Prod.fst = t.sends.map Prod.fst ++ [req.backend, second] := by
  unfold waitForPrimary
  split
  · exact .inl (by simp)
  · rename_i second hcand
    dsimp only
    split
    · exact .inl (by simp)
    · rename_i hdelay
      split
      · rename_i reason hdec
        obtain ⟨-, -, hbudget⟩ := (evaluateHedgePolicy_eq_hedge_iff _ _).1 hdec
        rcases hedgeRace_sends req env second _ _ with hs | ⟨-, -, hs⟩
        · refine .inr ⟨second, hcand, by simpa using hdelay, hbudget, ?_⟩
          rw [hs]
          simp
        · left
          rw [hs]
          simp
      · exact .inl (by simp)

end Arms

/-! ## Where a forward sends -/

section Reach

variable {R : Type}

/-- the arms that send the primary and retry it: every hedge decision but waiting -/
theorem forwardTask_of_retry_path {req : ForwardRequest} {env : ForwardEnv R} {budget : RetryBudget}
    {breakers : CircuitBreakers} (hws : req.websocketHttp = false) (hreq : req.hasRequest = true)
    (hpath : req.policy.hedgeBeforeDelay req.alternate ≠ .waitForPrimary) :
    forwardTask req env budget breakers =
      sendPrimaryWithRetry req env ⟨budget.markPrimary req.route, breakers, .default, []⟩ := by
  unfold forwardTask
  simp only [hws, hreq, Bool.false_eq_true, if_false, Bool.not_true]
  split
  · contradiction
  · rfl
  · rfl

theorem forwardTask_of_wait {req : ForwardRequest} {env : ForwardEnv R} {budget : RetryBudget}
    {breakers : CircuitBreakers} (hws : req.websocketHttp = false) (hreq : req.hasRequest = true)
    (hwait : req.policy.hedgeBeforeDelay req.alternate = .waitForPrimary) :
    forwardTask req env budget breakers = waitForPrimary req env ⟨budget.markPrimary req.route, breakers, .default, []⟩ := by
  unfold forwardTask
  simp only [hws, hreq, Bool.false_eq_true, if_false, Bool.not_true, hwait]

/-- a forward sends to its backend and at most once more, to the alternate candidate of a replayable request: as a
hedge once the delay passed with a retry from the budget, or, when the policy does not wait on the request, as a retry
of a retryable failure of an idempotent request that the budget or an open circuit let through -/
theorem forward_reaches_at_most_two_backends (req : ForwardRequest) (env : ForwardEnv R) (budget : RetryBudget)
    (breakers : CircuitBreakers) :
    (forwardTask req env budget breakers).1.sends.map Prod.fst = [] ∨
      (forwardTask req env budget breakers).1.sends.map Prod.fst = [req.backend] ∨
      ∃ second, buildAlternateBodylessCandidate req.endpointBuilds req.alternate = some second ∧
        req.policy.bodylessMode = true ∧
        (forwardTask req env budget breakers).1.sends.map Prod.fst = [req.backend, second] ∧
        ((req.policy.hedgeBeforeDelay req.alternate = .waitForPrimary ∧ env.primaryBeforeDelay = false ∧
            ((budget.markPrimary req.route).allowRetry req.route).2.isOk = true) ∨
          (req.policy.hedgeBeforeDelay req.alternate ≠ .waitForPrimary ∧ req.policy.methodIdempotent = true ∧
            ∃ e, sendAnswer breakers req.backend env.primary = .error e ∧ isRetryable e = true ∧
              (e.isCircuitOpen = true ∨ ((budget.markPrimary req.route).allowRetry req.route).2.isOk = true))) := by
  -- the tunnel and the two refusals before any send
  cases hws : req.websocketHttp
  case true =>
    left
    unfold forwardTask
    simp only [hws, if_true]
    split <;> rfl
  cases hreq : req.hasRequest
  case false =>
    left
    unfold forwardTask
    simp [hws, hreq]
  by_cases hwait : req.policy.hedgeBeforeDelay req.alternate = .waitForPrimary
  · -- the hedge arm: the second send, if any, is the hedge
    rw [forwardTask_of_wait hws hreq hwait]
    rcases waitForPrimary_spec req env ⟨budget.markPrimary req.route, breakers, .default, []⟩ with
      h | ⟨second, hcand, hdelay, hbudget, h⟩
    · exact .inr (.inl (by simpa using h))
    · refine .inr (.inr ⟨second, hcand, (gates_of_hedgeBeforeDelay hwait).2.2.1, by simpa using h,
        .inl ⟨hwait, hdelay, ?_⟩⟩)
      simpa [retryBudgetAvailableForError_snd, ProxyError.isCircuitOpen] using hbudget
  · -- the retry arms: the second send, if any, is the retry
    rw [forwardTask_of_retry_path hws hreq hwait]
    rcases sendPrimaryWithRetry_spec req env ⟨budget.markPrimary req.route, breakers, .default, []⟩ with
      h | ⟨second, e, hcand, hbody, hidem, hfail, hretry, hbudget, h⟩
    · exact .inr (.inl (by simpa using h))
    · refine .inr (.inr ⟨second, hcand, hbody, by simpa using h, .inr ⟨hwait, hidem, e, hfail, hretry, ?_⟩⟩)
      simpa [retryBudgetAvailableForError_snd] using hbudget

/-- on the retry path, a failure of the primary other than an open circuit takes a retry from the budget before the
policy decides; when the policy then refuses, for a method that is not idempotent or an error that is not retryable,
nothing else is sent and the retry stays charged -/
theorem retry_budget_charged_without_retry (req : ForwardRequest) (env : ForwardEnv R) (budget : RetryBudget)
    (breakers : CircuitBreakers) {e : ProxyError} (hws : req.websocketHttp = false) (hreq : req.hasRequest = true)
    (hpath : req.policy.hedgeBeforeDelay req.alternate ≠ .waitForPrimary)
    (hfail : sendAnswer breakers req.backend env.primary = .error e) (hopen : e.isCircuitOpen = false) :
    (forwardTask req env budget breakers).1.budget = ((budget.markPrimary req.route).allowRetry req.route).1 ∧
      (req.policy.methodIdempotent = false ∨ isRetryable e = false →
        (forwardTask req env budget breakers).1.sends.map Prod.fst = [req.backend]) := by
  rw [forwardTask_of_retry_path hws hreq hpath, sendPrimaryWithRetry_of_error req env hfail]
  obtain ⟨hbudget, hsends⟩ := retryPrimaryError_spec req env e
    (TaskState.sendUpstreamRequest ⟨budget.markPrimary req.route, breakers, .default, []⟩ req.backend env.primary).1
  refine ⟨by simp [hbudget, retryBudgetAvailableForError_of_not_circuitOpen hopen], fun hrefused => ?_⟩
  rcases hsends with hsame | ⟨second, -, -, hidem, hretry, -, -⟩
  · simp [hsame]
  · rcases hrefused with h | h
    · rw [hidem] at h; cases h
    · rw [hretry] at h; cases h

/-- a `POST` on route `api`, hedging off, with a selected alternate -/
def postRequest : ForwardRequest :=
  ⟨"api", "10.0.0.1:80", ⟨false, true, false, false, false⟩, false, false, true, some (.selected "10.0.0.2:80"),
    fun _ => true⟩

/-- the primary's connection is reset -/
def resetPrimary : ForwardEnv ℕ :=
  ⟨⟨0, 5, .error (.transport "connection reset")⟩, ⟨0, 0, .ok 0⟩, .ok 0, false, false, true⟩

/-- the reset `POST` on a fresh budget: the route's one retry is spent, and nothing was sent but the primary -/
theorem refused_retry_spends_route_budget :
    ((forwardTask postRequest resetPrimary (RetryBudget.new true 20 []) (CircuitBreakers.new true 5 1000 1)).1.budget.statsOf
      "api" = (1, 1)) ∧
      (forwardTask postRequest resetPrimary (RetryBudget.new true 20 []) (CircuitBreakers.new true 5 1000 1)).1.sends.map
        Prod.fst = ["10.0.0.1:80"] := by
  obtain ⟨hbudget, hsends⟩ := retry_budget_charged_without_retry postRequest resetPrimary (RetryBudget.new true 20 [])
    (CircuitBreakers.new true 5 1000 1) (e := .transport "connection reset") rfl rfl (by decide) rfl rfl
  exact ⟨by rw [hbudget]; rfl, hsends (.inl rfl)⟩

end Reach

/-! ## A stranded probe -/

/-- the key's breaker is stuck, and no send of the task to it was admitted -/
def Locked (key : String) (t : TaskState) : Prop := t.breakers.Stuck key ∧ (key, true) ∉ t.sends

namespace Locked

variable {R : Type} {key : String} {t : TaskState}

/-- the budget and the telemetry play no part -/
theorem of_eq (h : Locked key t) {t' : TaskState} (hb : t'.breakers = t.breakers) (hs : t'.sends = t.sends) :
    Locked key t' := by
  unfold Locked
  rw [hb, hs]
  exact h

/-- a stuck key refuses the send's breaker check, and every other check leaves it stuck -/
theorem startSend (h : Locked key t) (backend : String) (o : UpstreamSend R) :
    Locked key (t.startSend backend o).1 ∧ (backend = key → (t.startSend backend o).2 = false) := by
  have hrefuse := CircuitBreakers.allowRequest_of_stuck h.1 o.start
  refine ⟨⟨by simpa using h.1.allowRequest o.start backend, ?_⟩, ?_⟩
  · simp only [TaskState.startSend_sends, List.mem_append, List.mem_singleton, not_or]
    refine ⟨h.2, fun heq => ?_⟩
    obtain ⟨rfl, hadm⟩ := Prod.mk.inj heq
    rw [hrefuse] at hadm
    cases hadm
  · rintro rfl
    simp [hrefuse]

/-- a send to the key that was refused records nothing; a record on another key leaves it stuck -/
theorem finishSend (h : Locked key t) {backend : String} {admitted : Bool} (hadm : backend = key → admitted = false)
    (o : UpstreamSend R) : Locked key (t.finishSend backend admitted o).1 := by
  unfold TaskState.finishSend
  split
  · exact h
  · rename_i hadmitted
    have hne : backend ≠ key := fun hk => by simp [hadm hk] at hadmitted
    split
    · exact ⟨h.1.recordSuccess hne, h.2⟩
    · exact ⟨h.1.recordFailure hne _, h.2⟩

theorem sendUpstreamRequest (h : Locked key t) (backend : String) (o : UpstreamSend R) :
    Locked key (t.sendUpstreamRequest backend o).1 :=
  (h.startSend backend o).1.finishSend (h.startSend backend o).2 o

end Locked

section Strand

variable {R : Type} {req : ForwardRequest} {env : ForwardEnv R} {key : String} {t : TaskState}

theorem retryPrimaryError_locked (h : Locked key t) (e : ProxyError) : Locked key (retryPrimaryError req env e t).1 := by
  unfold retryPrimaryError
  dsimp only
  split
  · exact h.of_eq rfl rfl
  · split
    · exact h.of_eq rfl rfl
    · refine Locked.sendUpstreamRequest ?_ _ _
      exact h.of_eq rfl rfl

theorem sendPrimaryWithRetry_locked (h : Locked key t) : Locked key (sendPrimaryWithRetry req env t).1 := by
  unfold sendPrimaryWithRetry
  dsimp only
  split
  · exact h.sendUpstreamRequest _ _
  · exact retryPrimaryError_locked (h.sendUpstreamRequest _ _) _

/-- the race keeps the key stuck when the primary's send, if it is to the key, was refused -/
theorem hedgeRace_locked (h : Locked key t) {hedgeBackend : String} {primaryAdmitted : Bool}
    (hprimary : req.backend = key → primaryAdmitted = false) :
    Locked key (hedgeRace req env hedgeBackend primaryAdmitted t).1 := by
  unfold hedgeRace
  obtain ⟨hl, hh⟩ := h.startSend hedgeBackend env.second
  split
  · dsimp only
    split
    · exact (hl.finishSend hh env.second).of_eq rfl rfl
    · refine Locked.finishSend ?_ hprimary env.primary
      exact (hl.finishSend hh env.second).of_eq rfl rfl
  · split
    · dsimp only
      split
      · exact (hl.finishSend hprimary env.primary).of_eq rfl rfl
      · refine Locked.finishSend ?_ hh env.second
        exact (hl.finishSend hprimary env.primary).of_eq rfl rfl
    · -- the hedge, not polled before the primary answered, makes its check only after a failed primary
      dsimp only
      split
      · exact (h.finishSend hprimary env.primary).of_eq rfl rfl
      · refine Locked.sendUpstreamRequest ?_ _ _
        exact (h.finishSend hprimary env.primary).of_eq rfl rfl

theorem waitForPrimary_locked (h : Locked key t) : Locked key (waitForPrimary req env t).1 := by
  unfold waitForPrimary
  split
  · exact h.sendUpstreamRequest _ _
  · dsimp only
    obtain ⟨hl, hp⟩ := h.startSend req.backend env.primary
    split
    · exact hl.finishSend hp env.primary
    · split
      · refine hedgeRace_locked ?_ hp
        exact hl.of_eq rfl rfl
      · refine Locked.finishSend ?_ hp env.primary
        exact hl.of_eq rfl rfl

/-- a forward on breakers where the key is stuck has no send to the key admitted, and leaves it stuck -/
theorem forwardTask_locked (req : ForwardRequest) (env : ForwardEnv R) (budget : RetryBudget) {breakers : CircuitBreakers}
    (h : breakers.Stuck key) :
    Locked key (forwardTask req env budget breakers).1 := by
  have h₀ : Locked key ⟨budget.markPrimary req.route, breakers, .default, []⟩ := ⟨h, by simp⟩
  unfold forwardTask
  dsimp only
  split
  · split <;> exact h₀
  · split
    · exact h₀
    · split
      · exact waitForPrimary_locked h₀
      · exact sendPrimaryWithRetry_locked h₀
      · exact sendPrimaryWithRetry_locked h₀

/-- over every run of forwards, a stuck key stays stuck and no send to it is admitted -/
theorem runForwards_locked (forwards : List (ForwardRequest × ForwardEnv R)) {budget : RetryBudget}
    {breakers : CircuitBreakers} (h : breakers.Stuck key) :
    (runForwards budget breakers forwards).2.1.Stuck key ∧
      ∀ sends ∈ (runForwards budget breakers forwards).2.2, (key, true) ∉ sends := by
  induction forwards generalizing budget breakers with
  | nil => exact ⟨h, by simp [runForwards]⟩
  | cons f rest ih =>
    obtain ⟨req, env⟩ := f
    have hf := forwardTask_locked req env budget h
    obtain ⟨hstuck, hsends⟩ := ih hf.1
    refine ⟨hstuck, ?_⟩
    simp only [runForwards, List.mem_cons]
    rintro sends (rfl | hmem)
    · exact hf.2
    · exact hsends sends hmem

/-- the hedge answers first: the primary's send is dropped, and only the hedge's answer is recorded -/
theorem hedgeRace_hedge_wins (req : ForwardRequest) (primaryAdmitted : Bool) {hedgeBackend : String} {response : R}
    (hfirst : env.hedgeFirst = true) (hwin : sendAnswer t.breakers hedgeBackend env.second = .ok response) :
    (hedgeRace req env hedgeBackend primaryAdmitted t).2 = .ok response ∧
      (hedgeRace req env hedgeBackend primaryAdmitted t).1.breakers =
        (t.breakers.allowRequest env.second.start hedgeBackend).1.recordSuccess hedgeBackend := by
  unfold sendAnswer at hwin
  split at hwin
  · rename_i hadm
    unfold hedgeRace
    simp [hfirst, TaskState.finishSend, hadm, hwin]
  · cases hwin

/-- past the delay, with the budget's retry, a request the policy waited on races its hedge -/
theorem waitForPrimary_hedged {hedgeBackend : String} (hwait : req.policy.hedgeBeforeDelay req.alternate = .waitForPrimary)
    (hcand : buildAlternateBodylessCandidate req.endpointBuilds req.alternate = some hedgeBackend)
    (hdelay : env.primaryBeforeDelay = false)
    (havailable : (retryBudgetAvailableForError .timeout req.route t.budget).2 = true) :
    ∃ t', t'.breakers = (t.breakers.allowRequest env.primary.start req.backend).1 ∧
      waitForPrimary req env t = hedgeRace req env hedgeBackend (t.breakers.allowRequest env.primary.start req.backend).2 t' := by
  unfold waitForPrimary
  simp only [hcand, hdelay, Bool.false_eq_true, if_false, TaskState.startSend_budget, havailable,
    hedgeAfterDelay_of_wait hwait, if_true]
  exact ⟨_, rfl, rfl⟩

/-- a hedge that wins the race drops the primary's send, which never reports to its breaker: when that send was the
half-open probe of a breaker with one probe slot, the slot stays taken, so the breaker refuses every request from then
on and no later forward, whatever it is, is admitted to the backend -/
theorem hedge_race_strands_probe (req : ForwardRequest) (env : ForwardEnv R) (budget : RetryBudget)
    (breakers : CircuitBreakers) {hedgeBackend : String} {u : ℕ} {response : R}
    (hen : breakers.config.enabled = true) (hmax : breakers.config.halfOpenMaxProbes = 1)
    (hopen : (breakers.stateOf req.backend).openUntil = some u) (hdeadline : u ≤ env.primary.start)
    (hws : req.websocketHttp = false) (hreq : req.hasRequest = true)
    (hwait : req.policy.hedgeBeforeDelay req.alternate = .waitForPrimary)
    (hcand : buildAlternateBodylessCandidate req.endpointBuilds req.alternate = some hedgeBackend)
    (hne : hedgeBackend ≠ req.backend) (hdelay : env.primaryBeforeDelay = false)
    (hbudget : ((budget.markPrimary req.route).allowRetry req.route).2 = .ok ()) (hfirst : env.hedgeFirst = true)
    (hwin : sendAnswer (breakers.allowRequest env.primary.start req.backend).1 hedgeBackend env.second = .ok response) :
    (forwardTask req env budget breakers).2 = .ok response ∧
      (forwardTask req env budget breakers).1.breakers.Stuck req.backend ∧
      ∀ later : List (ForwardRequest × ForwardEnv R),
        ∀ sends ∈ (runForwards (forwardTask req env budget breakers).1.budget
          (forwardTask req env budget breakers).1.breakers later).2.2, (req.backend, true) ∉ sends := by
  -- the primary is admitted as the probe and takes the one slot
  obtain ⟨-, hstuck⟩ := CircuitBreakers.allowRequest_past_deadline hen hmax hopen hdeadline
  -- the budget grants the hedge its retry, so the task races the primary and the hedge
  have havailable : (retryBudgetAvailableForError .timeout req.route (budget.markPrimary req.route)).2 = true := by
    rw [retryBudgetAvailableForError_snd, hbudget]
    rfl
  obtain ⟨t', ht', hw⟩ := waitForPrimary_hedged (t := ⟨budget.markPrimary req.route, breakers, .default, []⟩)
    hwait hcand hdelay havailable
  -- the hedge answers first: only its own breaker hears of it
  obtain ⟨hanswer, hbreakers⟩ := hedgeRace_hedge_wins req (breakers.allowRequest env.primary.start req.backend).2
    (t := t') hfirst (by rw [ht']; exact hwin)
  have hfinal : (forwardTask req env budget breakers).1.breakers.Stuck req.backend := by
    rw [forwardTask_of_wait hws hreq hwait, hw, hbreakers, ht']
    exact (hstuck.allowRequest env.second.start hedgeBackend).recordSuccess hne
  refine ⟨by rw [forwardTask_of_wait hws hreq hwait, hw, hanswer], hfinal, fun later => ?_⟩
  exact (runForwards_locked later hfinal).2

/-- a `GET` on route `api` that hedging allows, with a selected alternate -/
def hedgedGet : ForwardRequest :=
  ⟨"api", "10.0.0.1:80", ⟨true, true, true, true, false⟩, false, false, true, some (.selected "10.0.0.2:80"),
    fun _ => true⟩

/-- the primary is sent at 200, past its breaker's deadline; after the delay the hedge answers first -/
def hedgeWinsEnv : ForwardEnv ℕ := ⟨⟨200, 900, .ok 1⟩, ⟨250, 300, .ok 2⟩, .ok 0, false, true, true⟩

/-- one probe slot, and the primary's backend open until 100 -/
def openPrimaryBreakers : CircuitBreakers := ⟨⟨true, 1, 1000, 1⟩, [("10.0.0.1:80", ⟨0, some 100, 0, false⟩)]⟩

theorem hedged_get_strands_probe :
    (forwardTask hedgedGet hedgeWinsEnv (RetryBudget.new true 20 []) openPrimaryBreakers).2 = .ok 2 ∧
      (forwardTask hedgedGet hedgeWinsEnv (RetryBudget.new true 20 []) openPrimaryBreakers).1.breakers.Stuck
        "10.0.0.1:80" ∧
      ∀ later : List (ForwardRequest × ForwardEnv ℕ),
        ∀ sends ∈ (runForwards (forwardTask hedgedGet hedgeWinsEnv (RetryBudget.new true 20 []) openPrimaryBreakers).1.budget
          (forwardTask hedgedGet hedgeWinsEnv (RetryBudget.new true 20 []) openPrimaryBreakers).1.breakers later).2.2,
          ("10.0.0.1:80", true) ∉ sends :=
  hedge_race_strands_probe hedgedGet hedgeWinsEnv (RetryBudget.new true 20 []) openPrimaryBreakers (u := 100) rfl rfl
    rfl (by decide) rfl rfl rfl rfl (by decide) rfl rfl rfl rfl

end Strand

end Spooky.Edge
