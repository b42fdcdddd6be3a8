/-
The pre-admission policy of a forwarded request (`evaluate_forwarding_pre_admission_policy` in
`crates/edge/src/quic_listener/admission.rs`): local auth, then brownout shedding
(`crates/edge/src/resilience/brownout.rs`), then the scoped rate limits, each stage answering before the next runs.
The rate limits key a request by `resolve_scoped_rate_limit_key` (`crates/edge/src/quic_listener/forwarding/mod.rs`).

The brownout controller keeps one flag, read and written with relaxed atomics; observations are taken one at a time
here. `jwt_is_authorized` (an HS256 signature, JSON claims and RBAC) is an input of each request; the API-key check
is modelled.

Results:
- `observeRun_active`: with the recover threshold below the trigger, as the validator demands, the controller is
  active after any sequence of observations exactly when the last one outside the band between the thresholds was at
  or above the trigger.
- `evaluateRun_limiters`: along every run, a request refused by local auth or by brownout takes no token: the limiters
  evolve as `check` over exactly the requests that get past both stages.
- `preAdmission_window_bound`: the requests the policy admits, that a rule applies to with a given key, are at most
  `burst + rate × (e − s)` in any window [s, e], when the rule's `idle_ttl × rate ≥ burst`.

Of the data: every rejection has a response, with a challenge only for auth and a retry-after of at least one second
only for rate limiting and overload (`admissionRejectionResponse_spec`); a token rule without a key spec keys every
request without a bearer token by its authority, so they share one bucket (`resolveScopedRateLimitKey_token_without_bearer`).
-/
import Spooky.Edge.ScopedRateLimit

namespace Spooky.Edge

open Text

/-! ## Brownout -/

/-- `BrownoutController`; `active` is an `AtomicBool` -/
structure BrownoutController where
  enabled : Bool
  triggerInflightPercent : ℕ
  recoverInflightPercent : ℕ
  coreRoutes : List String
  active : Bool
deriving DecidableEq, Repr

namespace BrownoutController

def new (enabled : Bool) (triggerInflightPercent recoverInflightPercent : ℕ) (coreRoutes : List String) :
    BrownoutController :=
  ⟨enabled, min triggerInflightPercent 100, min recoverInflightPercent 100, coreRoutes, false⟩

def observeAdmissionPressure (inflightPercent : ℕ) (brownout : BrownoutController) : BrownoutController :=
  if !brownout.enabled then { brownout with active := false }
  else if !brownout.active && brownout.triggerInflightPercent ≤ inflightPercent then { brownout with active := true }
  else if brownout.active && inflightPercent ≤ brownout.recoverInflightPercent then { brownout with active := false }
  else brownout

def isActive (brownout : BrownoutController) : Bool := brownout.active

def routeAllowed (route : String) (brownout : BrownoutController) : Bool :=
  if !brownout.enabled || !brownout.isActive then true else brownout.coreRoutes.contains route

/-- observations one after another -/
def observeRun (brownout : BrownoutController) (pressures : List ℕ) : BrownoutController :=
  pressures.foldl (fun brownout p => brownout.observeAdmissionPressure p) brownout

/-- an observation the controller acts on: one outside the band strictly between the recover and trigger
thresholds -/
def decisive (brownout : BrownoutController) (p : ℕ) : Bool :=
  p ≤ brownout.recoverInflightPercent || brownout.triggerInflightPercent ≤ p

variable (p : ℕ) (brownout : BrownoutController)

@[simp] theorem observe_enabled : (brownout.observeAdmissionPressure p).enabled = brownout.enabled := by
  unfold observeAdmissionPressure
  split_ifs <;> rfl

@[simp] theorem observe_triggerInflightPercent :
    (brownout.observeAdmissionPressure p).triggerInflightPercent = brownout.triggerInflightPercent := by
  unfold observeAdmissionPressure
  split_ifs <;> rfl

@[simp] theorem observe_recoverInflightPercent :
    (brownout.observeAdmissionPressure p).recoverInflightPercent = brownout.recoverInflightPercent := by
  unfold observeAdmissionPressure
  split_ifs <;> rfl

@[simp] theorem observe_coreRoutes : (brownout.observeAdmissionPressure p).coreRoutes = brownout.coreRoutes := by
  unfold observeAdmissionPressure
  split_ifs <;> rfl

@[simp] theorem observeRun_nil : brownout.observeRun [] = brownout := rfl

theorem observeRun_append_singleton (ps : List ℕ) :
    brownout.observeRun (ps ++ [p]) = (brownout.observeRun ps).observeAdmissionPressure p := by
  simp [observeRun]

@[simp] theorem decisive_observe : (brownout.observeAdmissionPressure p).decisive = brownout.decisive := by
  funext q
  simp [decisive]

@[simp] theorem observeRun_enabled (ps : List ℕ) : (brownout.observeRun ps).enabled = brownout.enabled := by
  induction ps using List.reverseRecOn with
  | nil => rfl
  | append_singleton ps q ih => rw [observeRun_append_singleton, observe_enabled, ih]

@[simp] theorem observeRun_triggerInflightPercent (ps : List ℕ) :
    (brownout.observeRun ps).triggerInflightPercent = brownout.triggerInflightPercent := by
  induction ps using List.reverseRecOn with
  | nil => rfl
  | append_singleton ps q ih => rw [observeRun_append_singleton, observe_triggerInflightPercent, ih]

@[simp] theorem observeRun_recoverInflightPercent (ps : List ℕ) :
    (brownout.observeRun ps).recoverInflightPercent = brownout.recoverInflightPercent := by
  induction ps using List.reverseRecOn with
  | nil => rfl
  | append_singleton ps q ih => rw [observeRun_append_singleton, observe_recoverInflightPercent, ih]

@[simp] theorem observeRun_decisive (ps : List ℕ) : (brownout.observeRun ps).decisive = brownout.decisive := by
  induction ps using List.reverseRecOn with
  | nil => rfl
  | append_singleton ps q ih => rw [observeRun_append_singleton, decisive_observe, ih]

/-- one observation of an enabled controller: a decisive one sets the flag to whether it reached the trigger, any
other leaves it -/
theorem observe_active (henabled : brownout.enabled)
    (hband : brownout.recoverInflightPercent < brownout.triggerInflightPercent) :
    (brownout.observeAdmissionPressure p).active =
      if brownout.decisive p then decide (brownout.triggerInflightPercent ≤ p) else brownout.active := by
  unfold observeAdmissionPressure decisive
  by_cases ht : brownout.triggerInflightPercent ≤ p
  · -- at or above the trigger, and so above the recover threshold
    have hr : ¬p ≤ brownout.recoverInflightPercent := by omega
    cases hactive : brownout.active <;> simp [henabled, hactive, ht, hr]
  · by_cases hr : p ≤ brownout.recoverInflightPercent
    · cases hactive : brownout.active <;> simp [henabled, hactive, ht, hr]
    · cases hactive : brownout.active <;> simp [henabled, hactive, ht, hr]

/-- Hysteresis: with the recover threshold below the trigger, an enabled controller is active after any sequence of
observations exactly when the last decisive one reached the trigger; with none, it keeps its flag. -/
theorem observeRun_active (henabled : brownout.enabled)
    (hband : brownout.recoverInflightPercent < brownout.triggerInflightPercent) (ps : List ℕ) :
    (brownout.observeRun ps).active =
      ((ps.reverse.find? brownout.decisive).map fun p => decide (brownout.triggerInflightPercent ≤ p)).getD
        brownout.active := by
  induction ps using List.reverseRecOn with
  | nil => rfl
  | append_singleton ps q ih =>
    -- the run so far has the thresholds it started with, so the last observation acts as on a fresh controller
    have hband' : (brownout.observeRun ps).recoverInflightPercent < (brownout.observeRun ps).triggerInflightPercent := by
      simpa using hband
    rw [observeRun_append_singleton, observe_active q _ (by simpa using henabled) hband', observeRun_decisive,
      observeRun_triggerInflightPercent, ih, List.reverse_append, List.reverse_singleton, List.singleton_append,
      List.find?_cons]
    cases brownout.decisive q <;> rfl

/-- the default thresholds, 90 and 60, after a spike and a fall into the band -/
theorem observeRun_active_default_thresholds :
    (BrownoutController.observeRun ⟨true, 90, 60, [], false⟩ [95, 70]).active =
      (([95, 70].reverse.find? (BrownoutController.decisive ⟨true, 90, 60, [], false⟩)).map
        fun p => decide (90 ≤ p)).getD false :=
  observeRun_active _ rfl (by decide) _

end BrownoutController

/-! ## Local auth and the decisions -/

/-- `RuntimeApiKeyAuth` -/
structure RuntimeApiKeyAuth where
  headerName : List Char
  keys : List (List Char)
deriving DecidableEq, Repr

/-- `api_key_is_authorized`, on the policy's `api_key`; `ct_eq` on the bytes is equality of the strings -/
def apiKeyIsAuthorized (apiKey : Option RuntimeApiKeyAuth) (headerLookup : Option (List Char → Option (List Char))) :
    Bool :=
  match apiKey with
  | none => true
  | some apiKey =>
    match headerLookup.bind fun lookup => lookup apiKey.headerName with
    | none => false
    | some provided =>
      let provided := trimChars provided
      !provided.isEmpty && apiKey.keys.any fun expected => provided == expected

inductive AuthChallengeKind where
  | apiKey
  | bearer
deriving DecidableEq, Repr

def AuthChallengeKind.asWwwAuthenticate : AuthChallengeKind → String
  | .apiKey => "ApiKey"
  | .bearer => "Bearer"

structure UnauthorizedDecision where
  challenge : AuthChallengeKind
  status : ℕ
  body : String
deriving DecidableEq, Repr

structure RateLimitedDecision where
  ruleName : String
  route : String
  status : ℕ
  body : String
  retryAfterSeconds : ℕ
deriving DecidableEq, Repr

inductive AdmissionPolicyDecision where
  | admitReady
  | unauthorized (decision : UnauthorizedDecision)
  | rateLimited (decision : RateLimitedDecision)
  | overloaded (decision : OverloadDecision)
deriving DecidableEq, Repr

structure AdmissionRejectionResponse where
  status : ℕ
  body : String
  wwwAuthenticate : Option String
  retryAfterSeconds : Option ℕ
deriving DecidableEq, Repr

def admissionRejectionResponse : AdmissionPolicyDecision → Option AdmissionRejectionResponse
  | .admitReady => none
  | .unauthorized decision => some ⟨decision.status, decision.body, some decision.challenge.asWwwAuthenticate, none⟩
  | .rateLimited decision => some ⟨decision.status, decision.body, none, some (max decision.retryAfterSeconds 1)⟩
  | .overloaded decision => some ⟨decision.status, decision.body, none, some (max decision.retryAfterSeconds 1)⟩

/-- `evaluate_local_auth_policy`; the answer of `jwt_is_authorized` is an input -/
def evaluateLocalAuthPolicy (apiKey : Option RuntimeApiKeyAuth) (jwtAuthorized : Bool)
    (headerLookup : Option (List Char → Option (List Char))) : AdmissionPolicyDecision :=
  if !apiKeyIsAuthorized apiKey headerLookup then .unauthorized ⟨.apiKey, 401, "unauthorized\n"⟩
  else if !jwtAuthorized then .unauthorized ⟨.bearer, 401, "unauthorized\n"⟩
  else .admitReady

def evaluateBrownoutPolicy (brownout : BrownoutController) (inflightPercent : ℕ) (route : String)
    (retryAfterSeconds : ℕ) : BrownoutController × AdmissionPolicyDecision :=
  let brownout := brownout.observeAdmissionPressure inflightPercent
  (brownout, if brownout.routeAllowed route then .admitReady else .overloaded (overloaded .brownout retryAfterSeconds))

def evaluateScopedRateLimitPolicy (scopedRateLimits : ScopedRateLimiters) (route : String)
    (keyForRule : ScopedRateLimitRule → Option (List Char)) (now : ℚ) :
    ScopedRateLimiters × AdmissionPolicyDecision :=
  let checked := scopedRateLimits.check route keyForRule now
  (checked.1,
    match checked.2 with
    | none => .admitReady
    | some rejection =>
      .rateLimited ⟨rejection.ruleName, rejection.route, 429, "request rate limited\n", rejection.retryAfterSeconds⟩)

/-- `evaluate_forwarding_pre_admission_policy`: the brownout controller and the limiters after it, and the
decision -/
def evaluateForwardingPreAdmissionPolicy (apiKey : Option RuntimeApiKeyAuth) (jwtAuthorized : Bool)
    (headerLookup : Option (List Char → Option (List Char))) (brownout : BrownoutController) (inflightPercent : ℕ)
    (route : String) (retryAfterSeconds : ℕ) (scopedRateLimits : ScopedRateLimiters)
    (keyForRule : ScopedRateLimitRule → Option (List Char)) (now : ℚ) :
    (BrownoutController × ScopedRateLimiters) × AdmissionPolicyDecision :=
  let auth := evaluateLocalAuthPolicy apiKey jwtAuthorized headerLookup
  if auth ≠ .admitReady then ((brownout, scopedRateLimits), auth)
  else
    let shed := evaluateBrownoutPolicy brownout inflightPercent route retryAfterSeconds
    if shed.2 ≠ .admitReady then ((shed.1, scopedRateLimits), shed.2)
    else
      let limited := evaluateScopedRateLimitPolicy scopedRateLimits route keyForRule now
      ((shed.1, limited.1), limited.2)

/-- every rejection is answered with its own status and body, a challenge only for auth, and a retry-after of at
least one second exactly for rate limiting and overload -/
theorem admissionRejectionResponse_spec (decision : AdmissionPolicyDecision) :
    (admissionRejectionResponse decision).isNone = (decision = .admitReady) ∧
      ∀ response ∈ admissionRejectionResponse decision,
        (response.wwwAuthenticate.isSome ↔ ∃ d, decision = .unauthorized d) ∧
        ∀ r ∈ response.retryAfterSeconds, 1 ≤ r := by
  cases decision with
  | admitReady => simp [admissionRejectionResponse]
  | unauthorized d => simp [admissionRejectionResponse]
  | rateLimited d => simp [admissionRejectionResponse]
  | overloaded d => simp [admissionRejectionResponse]

/-! ## Keys -/

section Key

variable {Addr : Type} (ipString : Addr → List Char)

/-- `resolve_scoped_rate_limit_key`, which reads the rule's scope and key spec only -/
def resolveScopedRateLimitKey (scope : ScopedRateLimitScope) (keySpec : Option (List Char)) (route : String)
    (method path : List Char) (authority : Option (List Char)) (clientAddr : Addr)
    (headerLookup : Option (List Char → Option (List Char))) : Option (List Char) :=
  match scope with
  | .route => some route.toList
  | .client =>
    some (resolveLbKey ipString [] (some (keySpec.getD "peer_ip".toList)) method path authority none (some clientAddr)
      headerLookup).value
  | .tenant =>
    keySpec.map fun keySpec =>
      (resolveLbKey ipString [] (some keySpec) method path authority none (some clientAddr) headerLookup).value
  | .token =>
    some (resolveLbKey ipString [] (some (keySpec.getD "bearer_token".toList)) method path authority none
      (some clientAddr) headerLookup).value

/-- A token rule with no key spec keys a request without a bearer token by its authority, or else its path or
method: all such requests to one authority share one bucket. -/
theorem resolveScopedRateLimitKey_token_without_bearer (route : String) (method path : List Char)
    (authority : Option (List Char)) (clientAddr : Addr) (headerLookup : Option (List Char → Option (List Char)))
    (hbearer : (headerLookup.bind fun lookup => lookup "authorization".toList).bind bearerTokenFromAuthorizationValue =
      none) :
    resolveScopedRateLimitKey ipString .token none route method path authority clientAddr headerLookup =
      some (authority.getD (if !path.isEmpty then path else method)) := by
  have hparts : resolveLbKeyFromParts ipString "bearer_token".toList
      ⟨method, path, authority, none, some clientAddr, headerLookup⟩ = none := by
    rw [← hbearer]
    rfl
  simp only [resolveScopedRateLimitKey, Option.getD_none, resolveLbKey, resolveLbKeyForInput, Option.bind_some,
    hparts]
  rfl

end Key

/-! ## Runs of the policy -/

/-- a forwarded request as the pre-admission policy sees it -/
structure PreAdmissionRequest (Addr : Type) where
  /-- the upstream policy's `api_key` -/
  apiKey : Option RuntimeApiKeyAuth
  /-- the answer of `jwt_is_authorized` -/
  jwtAuthorized : Bool
  headerLookup : Option (List Char → Option (List Char))
  inflightPercent : ℕ
  route : String
  retryAfterSeconds : ℕ
  method : List Char
  path : List Char
  authority : Option (List Char)
  clientAddr : Addr
  /-- the clock reading of its rate-limit check -/
  now : ℚ

/-- what the policy keeps between requests -/
structure PreAdmissionState where
  brownout : BrownoutController
  limiters : ScopedRateLimiters

section Run

variable {Addr : Type} (ipString : Addr → List Char)

namespace PreAdmissionRequest

/-- the request as the limiters see it, keyed by `resolve_scoped_rate_limit_key` -/
def rateLimitRequest (request : PreAdmissionRequest Addr) : ScopedRateLimitRequest :=
  ⟨request.route, fun scope keySpec => resolveScopedRateLimitKey ipString scope keySpec request.route request.method
    request.path request.authority request.clientAddr request.headerLookup, request.now⟩

def authorized (request : PreAdmissionRequest Addr) : Bool :=
  apiKeyIsAuthorized request.apiKey request.headerLookup && request.jwtAuthorized

end PreAdmissionRequest

namespace PreAdmissionState

/-- the policy on one request -/
def evaluate (request : PreAdmissionRequest Addr) (state : PreAdmissionState) : PreAdmissionState × AdmissionPolicyDecision :=
  let decided := evaluateForwardingPreAdmissionPolicy request.apiKey request.jwtAuthorized request.headerLookup
    state.brownout request.inflightPercent request.route request.retryAfterSeconds state.limiters
    (request.rateLimitRequest ipString).keyForRule request.now
  (⟨decided.1.1, decided.1.2⟩, decided.2)

/-- requests one after another: the state after them and each decision -/
def evaluateRun (state : PreAdmissionState) : List (PreAdmissionRequest Addr) → PreAdmissionState × List AdmissionPolicyDecision
  | [] => (state, [])
  | request :: requests =>
    let decided := state.evaluate ipString request
    let rest := decided.1.evaluateRun requests
    (rest.1, decided.2 :: rest.2)

end PreAdmissionState

/-- the requests that get past local auth and brownout, from a brownout state, as the limiters see them -/
def reachingRateLimits (brownout : BrownoutController) :
    List (PreAdmissionRequest Addr) → List ScopedRateLimitRequest
  | [] => []
  | request :: requests =>
    if request.authorized then
      let observed := brownout.observeAdmissionPressure request.inflightPercent
      if observed.routeAllowed request.route then
        request.rateLimitRequest ipString :: reachingRateLimits observed requests
      else reachingRateLimits observed requests
    else reachingRateLimits brownout requests

/-- the requests admitted by the policy that `rule` applies to with the key `k`, checked within [s, e] -/
def admittedThrough (rule : ScopedRateLimitRule) (k : List Char) (s e : ℚ) (requests : List (PreAdmissionRequest Addr))
    (decisions : List AdmissionPolicyDecision) : ℕ :=
  (requests.zip decisions).countP fun p =>
    decide (p.2 = .admitReady) && rule.appliesToRoute p.1.route &&
      decide ((p.1.rateLimitRequest ipString).keyForRule rule = some k) && decide (s ≤ p.1.now) &&
        decide (p.1.now ≤ e)

theorem evaluateLocalAuthPolicy_eq_admitReady_iff (apiKey : Option RuntimeApiKeyAuth) (jwtAuthorized : Bool)
    (headerLookup : Option (List Char → Option (List Char))) :
    evaluateLocalAuthPolicy apiKey jwtAuthorized headerLookup = .admitReady ↔
      (apiKeyIsAuthorized apiKey headerLookup && jwtAuthorized) = true := by
  unfold evaluateLocalAuthPolicy
  cases apiKeyIsAuthorized apiKey headerLookup <;> cases jwtAuthorized <;> simp

namespace PreAdmissionState

variable {request : PreAdmissionRequest Addr} {state : PreAdmissionState}

/-- a request refused by local auth changes nothing -/
theorem evaluate_of_unauthorized (h : request.authorized = false) :
    (state.evaluate ipString request).1 = state ∧ ∃ d, (state.evaluate ipString request).2 = .unauthorized d := by
  have hauth : evaluateLocalAuthPolicy request.apiKey request.jwtAuthorized request.headerLookup ≠ .admitReady := by
    rw [Ne, evaluateLocalAuthPolicy_eq_admitReady_iff]
    simpa [PreAdmissionRequest.authorized] using h
  refine ⟨by simp [evaluate, evaluateForwardingPreAdmissionPolicy, hauth], ?_⟩
  simp only [evaluate, evaluateForwardingPreAdmissionPolicy, hauth, ne_eq, not_false_eq_true, if_true]
  revert hauth
  unfold evaluateLocalAuthPolicy
  split_ifs <;> simp

/-- a request shed by brownout moves the controller and leaves the limiters -/
theorem evaluate_of_shed (h : request.authorized = true)
    (hshed : (state.brownout.observeAdmissionPressure request.inflightPercent).routeAllowed request.route = false) :
    state.evaluate ipString request =
      (⟨state.brownout.observeAdmissionPressure request.inflightPercent, state.limiters⟩,
        .overloaded (overloaded .brownout request.retryAfterSeconds)) := by
  have hauth : evaluateLocalAuthPolicy request.apiKey request.jwtAuthorized request.headerLookup = .admitReady :=
    (evaluateLocalAuthPolicy_eq_admitReady_iff _ _ _).2 h
  simp [evaluate, evaluateForwardingPreAdmissionPolicy, hauth, evaluateBrownoutPolicy, hshed]

/-- a request past both stages moves the controller and is checked by the limiters, which decide -/
theorem evaluate_of_allowed (h : request.authorized = true)
    (hallowed : (state.brownout.observeAdmissionPressure request.inflightPercent).routeAllowed request.route = true) :
    state.evaluate ipString request =
      (⟨state.brownout.observeAdmissionPressure request.inflightPercent,
          (state.limiters.check request.route (request.rateLimitRequest ipString).keyForRule request.now).1⟩,
        (evaluateScopedRateLimitPolicy state.limiters request.route (request.rateLimitRequest ipString).keyForRule
          request.now).2) := by
  have hauth : evaluateLocalAuthPolicy request.apiKey request.jwtAuthorized request.headerLookup = .admitReady :=
    (evaluateLocalAuthPolicy_eq_admitReady_iff _ _ _).2 h
  simp [evaluate, evaluateForwardingPreAdmissionPolicy, hauth, evaluateBrownoutPolicy, hallowed,
    evaluateScopedRateLimitPolicy]

/-- Along every run, requests refused by local auth or by brownout take no token: the limiters evolve as `check`
over exactly the requests that get past both stages. -/
theorem evaluateRun_limiters : ∀ (state : PreAdmissionState) (requests : List (PreAdmissionRequest Addr)),
    (state.evaluateRun ipString requests).1.limiters =
      (state.limiters.checkRun (reachingRateLimits ipString state.brownout requests)).1
  | _, [] => rfl
  | state, request :: requests => by
    cases hauth : request.authorized with
    | false =>
      obtain ⟨hstate, -⟩ := @evaluate_of_unauthorized _ ipString _ state hauth
      simp only [evaluateRun, reachingRateLimits, hauth, hstate]
      exact evaluateRun_limiters state requests
    | true =>
      cases hallowed : (state.brownout.observeAdmissionPressure request.inflightPercent).routeAllowed request.route with
      | false =>
        simp only [evaluateRun, reachingRateLimits, hauth, hallowed, evaluate_of_shed ipString hauth hallowed]
        exact evaluateRun_limiters _ requests
      | true =>
        simp only [evaluateRun, reachingRateLimits, hauth, hallowed, evaluate_of_allowed ipString hauth hallowed]
        exact evaluateRun_limiters _ requests

end PreAdmissionState

theorem evaluateScopedRateLimitPolicy_eq_admitReady_iff (limiters : ScopedRateLimiters) (route : String)
    (keyForRule : ScopedRateLimitRule → Option (List Char)) (now : ℚ) :
    (evaluateScopedRateLimitPolicy limiters route keyForRule now).2 = .admitReady ↔
      (limiters.check route keyForRule now).2 = none := by
  unfold evaluateScopedRateLimitPolicy
  cases h : (limiters.check route keyForRule now).2 <;> simp [h]

theorem admittedThrough_cons (rule : ScopedRateLimitRule) (k : List Char) (s e : ℚ) (request : PreAdmissionRequest Addr)
    (requests : List (PreAdmissionRequest Addr)) (decision : AdmissionPolicyDecision)
    (decisions : List AdmissionPolicyDecision) :
    admittedThrough ipString rule k s e (request :: requests) (decision :: decisions) =
      (if decide (decision = .admitReady) && rule.appliesToRoute request.route &&
          decide ((request.rateLimitRequest ipString).keyForRule rule = some k) && decide (s ≤ request.now) &&
          decide (request.now ≤ e) then 1 else 0) +
        admittedThrough ipString rule k s e requests decisions := by
  simp only [admittedThrough, List.zip_cons_cons, List.countP_cons]
  omega

/-- the requests past local auth and brownout are checked at the requests' clock readings, in the run's order -/
theorem reachingRateLimits_sublist : ∀ (brownout : BrownoutController) (requests : List (PreAdmissionRequest Addr)),
    ((reachingRateLimits ipString brownout requests).map ScopedRateLimitRequest.now).Sublist
      (requests.map PreAdmissionRequest.now)
  | _, [] => List.Sublist.slnil
  | brownout, request :: requests => by
    cases hauth : request.authorized with
    | false =>
      simpa [reachingRateLimits, hauth] using (reachingRateLimits_sublist brownout requests).cons request.now
    | true =>
      cases hallowed : (brownout.observeAdmissionPressure request.inflightPercent).routeAllowed request.route with
      | false =>
        simpa [reachingRateLimits, hauth, hallowed] using (reachingRateLimits_sublist _ requests).cons request.now
      | true =>
        simp only [reachingRateLimits, hauth, hallowed, ↓reduceIte, List.map_cons]
        exact (reachingRateLimits_sublist _ requests).cons_cons request.now

namespace PreAdmissionState

/-- the requests the policy admits are those past local auth and brownout that the limiters admit -/
theorem admittedThrough_evaluateRun (rule : ScopedRateLimitRule) (k : List Char) (s e : ℚ) :
    ∀ (state : PreAdmissionState) (requests : List (PreAdmissionRequest Addr)),
      admittedThrough ipString rule k s e requests (state.evaluateRun ipString requests).2 =
        ScopedRateLimiters.admittedFor rule k s e (reachingRateLimits ipString state.brownout requests)
          (state.limiters.checkRun (reachingRateLimits ipString state.brownout requests)).2
  | _, [] => rfl
  | state, request :: requests => by
    cases hauth : request.authorized with
    | false =>
      -- refused by local auth: nothing moves, and the decision admits nothing
      obtain ⟨hstate, d, hd⟩ := @evaluate_of_unauthorized _ ipString _ state hauth
      simp only [evaluateRun, admittedThrough_cons, reachingRateLimits, hauth, hstate, hd]
      simpa using admittedThrough_evaluateRun rule k s e state requests
    | true =>
      cases hallowed : (state.brownout.observeAdmissionPressure request.inflightPercent).routeAllowed request.route with
      | false =>
        simp only [evaluateRun, admittedThrough_cons, reachingRateLimits, hauth, hallowed,
          evaluate_of_shed ipString hauth hallowed]
        simpa using admittedThrough_evaluateRun rule k s e _ requests
      | true =>
        -- checked by the limiters, which decide
        simp only [evaluateRun, admittedThrough_cons, reachingRateLimits, hauth, hallowed, ↓reduceIte,
          evaluate_of_allowed ipString hauth hallowed, ScopedRateLimiters.checkRun, ScopedRateLimiters.admittedFor_cons,
          admittedThrough_evaluateRun rule k s e _ requests]
        have hdecide : decide ((evaluateScopedRateLimitPolicy state.limiters request.route
            (request.rateLimitRequest ipString).keyForRule request.now).2 = .admitReady) =
            (state.limiters.check request.route (request.rateLimitRequest ipString).keyForRule request.now).2.isNone := by
          rw [Bool.eq_iff_iff, decide_eq_true_iff, evaluateScopedRateLimitPolicy_eq_admitReady_iff,
            Option.isNone_iff_eq_none]
        rw [hdecide]
        rfl

end PreAdmissionState

open ScopedRateLimiters in
/-- Over every run of the pre-admission policy, from any brownout state and fresh limiters, at nondecreasing clock
readings: among the requests the policy admits, those that a rule with `idle_ttl × rate ≥ burst` applies to with a
given key, and that are checked within [s, e], are at most `burst + rate × (e − s)`. -/
theorem preAdmission_window_bound (configs : List ScopedRateLimitConfig) {config : ScopedRateLimitConfig}
    (hconfig : config ∈ configs)
    (hidle : max config.burst 1 ≤ max config.idleTtlSecs 1 * max config.requestsPerSec 1)
    (brownout : BrownoutController) (requests : List (PreAdmissionRequest Addr))
    (hrequests : (requests.map PreAdmissionRequest.now).Pairwise (· ≤ ·)) {k : List Char} (hk : k ≠ []) (s e : ℚ)
    (hse : s ≤ e) :
    (admittedThrough ipString (ScopedRateLimitRule.fromConfig config) k s e requests
        ((PreAdmissionState.mk brownout (ScopedRateLimiters.new configs)).evaluateRun ipString requests).2 : ℚ) ≤
      (max config.burst 1 : ℕ) + (max config.requestsPerSec 1 : ℕ) * (e - s) := by
  rw [PreAdmissionState.admittedThrough_evaluateRun]
  exact checkRun_window_bound configs hconfig hidle _
    (hrequests.sublist (reachingRateLimits_sublist ipString brownout requests)) hk s e hse

/-- a client rule of one request per second with a burst of two, beside a route rule -/
def clientRule : ScopedRateLimitConfig := ⟨"per-client", .client, 1, 2, none, [], 2⟩

def routeRule : ScopedRateLimitConfig := ⟨"api-route", .route, 5, 5, none, ["api"], 1⟩

def burstRequest (addr : String) (now : ℚ) : PreAdmissionRequest (List Char) :=
  ⟨none, true, none, 0, "api", 1, "GET".toList, "/".toList, some "example.com".toList, addr.toList, now⟩

/-- three requests from one client at time 0, another client's among them, and one more at time 1 -/
def burstRequests : List (PreAdmissionRequest (List Char)) :=
  [burstRequest "203.0.113.9" 0, burstRequest "203.0.113.9" 0, burstRequest "198.51.100.4" 0,
    burstRequest "203.0.113.9" 0, burstRequest "203.0.113.9" 1]

/-- the client's third request at time 0 is refused and the one at time 1 admitted: three admitted within [0, 1],
which is the bound `burst + rate × 1` -/
theorem preAdmission_window_bound_tight :
    admittedThrough (fun addr : List Char => addr) (ScopedRateLimitRule.fromConfig clientRule) "203.0.113.9".toList 0 1
        burstRequests
        ((PreAdmissionState.mk ⟨true, 90, 60, [], false⟩ (ScopedRateLimiters.new [routeRule, clientRule])).evaluateRun
          (fun addr : List Char => addr) burstRequests).2 = 3 ∧
    (admittedThrough (fun addr : List Char => addr) (ScopedRateLimitRule.fromConfig clientRule) "203.0.113.9".toList 0 1
        burstRequests
        ((PreAdmissionState.mk ⟨true, 90, 60, [], false⟩ (ScopedRateLimiters.new [routeRule, clientRule])).evaluateRun
          (fun addr : List Char => addr) burstRequests).2 : ℚ) ≤
      (max clientRule.burst 1 : ℕ) + (max clientRule.requestsPerSec 1 : ℕ) * (1 - 0) :=
  ⟨by decide +kernel,
    preAdmission_window_bound _ _ (by simp) (by decide) _ _ (by decide) (by simp) 0 1 (by norm_num)⟩

end Run

end Spooky.Edge
