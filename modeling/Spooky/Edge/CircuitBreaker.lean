/-
Per-backend circuit breakers of the edge (`crates/edge/src/resilience/circuit_breaker.rs`), as
`send_upstream_request` uses them: `allow_request` before a request, then `record_success` or `record_failure` with
its outcome.

Each backend key has a `BreakerState`, created by `entry(..).or_default()` at its first call. The configuration is
the four fields besides `states`; instants are nanoseconds on a monotonic clock, passed in as `now` (the clock value
of the call; `record_success` reads none). Runs are sequential, so the mutex is never poisoned. The per-key bodies
`allow`, `success` and `failure` are the code of the three methods after the entry is found.

Results:
- `run_project`: a key's state and answers depend only on that key's calls; the breakers are independent per-key
  machines.
- `straggler_success_closes_open_breaker`: two requests admitted while closed; the first fails and opens the breaker,
  the second then succeeds and closes it, and a request well inside the open window is admitted.
- `allow_open_window`: without a recorded success, an open breaker refuses every request before its deadline.
- `allow_probes_bounded`: before any outcome is recorded, an open or half-open breaker admits at most
  `half_open_max_probes` requests.
- `failures_open_at_threshold`: from a closed breaker, the failure that completes `failure_threshold` consecutive
  failures opens it, and no earlier one does.
-/
import Spooky.Lib.KeyedList
import Spooky.Lb.Backend

namespace Spooky.Edge

open KeyedList

structure BreakerState where
  consecutiveFailures : ℕ
  openUntil : Option ℕ
  halfOpenInflight : ℕ
  halfOpen : Bool
deriving DecidableEq, Repr

/-- `BreakerState::default()` -/
def BreakerState.default : BreakerState := ⟨0, none, 0, false⟩

/-- the fields of `CircuitBreakers` besides `states` -/
structure BreakerConfig where
  enabled : Bool
  failureThreshold : ℕ
  openFor : ℕ
  halfOpenMaxProbes : ℕ
deriving DecidableEq, Repr

structure CircuitBreakers where
  config : BreakerConfig
  states : List (String × BreakerState)
deriving DecidableEq, Repr

/-! ## One key -/

namespace BreakerState

variable (cfg : BreakerConfig)

/-- the half-open check at the end of `allow_request` -/
def probe (st : BreakerState) : BreakerState × Bool :=
  if st.halfOpen then
    if cfg.halfOpenMaxProbes ≤ st.halfOpenInflight then (st, false)
    else ({ st with halfOpenInflight := st.halfOpenInflight + 1 }, true)
  else (st, true)

/-- the body of `allow_request` on the key's state -/
def allow (now : ℕ) (st : BreakerState) : BreakerState × Bool :=
  match st.openUntil with
  | some untilAt =>
    if now < untilAt then (st, false)
    else probe cfg { st with openUntil := none, halfOpen := true, halfOpenInflight := 0, consecutiveFailures := 0 }
  | none => probe cfg st

/-- the body of `record_success` on the key's state -/
def success (st : BreakerState) : BreakerState :=
  let inflight := if st.halfOpen && 0 < st.halfOpenInflight then st.halfOpenInflight - 1 else st.halfOpenInflight
  { st with halfOpenInflight := inflight, consecutiveFailures := 0, openUntil := none, halfOpen := false }

/-- the body of `record_failure` on the key's state -/
def failure (now : ℕ) (st : BreakerState) : BreakerState :=
  if st.halfOpen then
    let inflight := if 0 < st.halfOpenInflight then st.halfOpenInflight - 1 else st.halfOpenInflight
    { st with halfOpenInflight := inflight, openUntil := some (now + cfg.openFor), halfOpen := false,
              consecutiveFailures := 0 }
  else
    let failures := min (st.consecutiveFailures + 1) Counters.u32Max
    if cfg.failureThreshold ≤ failures then
      { st with openUntil := some (now + cfg.openFor), halfOpen := false, consecutiveFailures := 0 }
    else { st with consecutiveFailures := failures }

end BreakerState

/-! ## The breakers -/

namespace CircuitBreakers

def new (enabled : Bool) (failureThreshold openFor halfOpenMaxProbes : ℕ) : CircuitBreakers :=
  ⟨⟨enabled, max failureThreshold 1, openFor, max halfOpenMaxProbes 1⟩, []⟩

/-- the key's state, the default before its first call -/
def stateOf (cb : CircuitBreakers) (backend : String) : BreakerState := (get backend cb.states).getD .default

def allowRequest (cb : CircuitBreakers) (now : ℕ) (backend : String) : CircuitBreakers × Bool :=
  if !cb.config.enabled then (cb, true)
  else
    let r := (cb.stateOf backend).allow cb.config now
    ({ cb with states := upsert backend r.1 cb.states }, r.2)

def recordSuccess (cb : CircuitBreakers) (backend : String) : CircuitBreakers :=
  if !cb.config.enabled then cb
  else { cb with states := upsert backend (cb.stateOf backend).success cb.states }

def recordFailure (cb : CircuitBreakers) (now : ℕ) (backend : String) : CircuitBreakers :=
  if !cb.config.enabled then cb
  else { cb with states := upsert backend ((cb.stateOf backend).failure cb.config now) cb.states }

end CircuitBreakers

/-- a call on the breakers at clock value `now` -/
inductive BreakerCall where
  | allowRequest (now : ℕ) (backend : String)
  | recordSuccess (now : ℕ) (backend : String)
  | recordFailure (now : ℕ) (backend : String)
deriving DecidableEq, Repr

namespace BreakerCall

def backend : BreakerCall → String
  | .allowRequest _ b | .recordSuccess _ b | .recordFailure _ b => b

def time : BreakerCall → ℕ
  | .allowRequest t _ | .recordSuccess t _ | .recordFailure t _ => t

def isAllow : BreakerCall → Bool
  | .allowRequest _ _ => true
  | _ => false

def isSuccess : BreakerCall → Bool
  | .recordSuccess _ _ => true
  | _ => false

def isFailure : BreakerCall → Bool
  | .recordFailure _ _ => true
  | _ => false

end BreakerCall

namespace CircuitBreakers

/-- one call: the breakers after it, and the answer of `allow_request` -/
def step (cb : CircuitBreakers) : BreakerCall → CircuitBreakers × Option Bool
  | .allowRequest now backend => let r := cb.allowRequest now backend; (r.1, some r.2)
  | .recordSuccess _ backend => (cb.recordSuccess backend, none)
  | .recordFailure now backend => (cb.recordFailure now backend, none)

/-- the breakers after the calls, and the answer to each call -/
def run (cb : CircuitBreakers) : List BreakerCall → CircuitBreakers × List (Option Bool)
  | [] => (cb, [])
  | c :: rest =>
    let r := cb.step c
    let r' := r.1.run rest
    (r'.1, r.2 :: r'.2)

end CircuitBreakers

/-! ## Keys are independent -/

namespace BreakerState

variable (cfg : BreakerConfig)

/-- one call on the key's own state -/
def step (st : BreakerState) : BreakerCall → BreakerState × Option Bool
  | .allowRequest now _ => if !cfg.enabled then (st, some true) else let r := st.allow cfg now; (r.1, some r.2)
  | .recordSuccess _ _ => (if !cfg.enabled then st else st.success, none)
  | .recordFailure now _ => (if !cfg.enabled then st else st.failure cfg now, none)

def run (st : BreakerState) : List BreakerCall → BreakerState × List (Option Bool)
  | [] => (st, [])
  | c :: rest =>
    let r := st.step cfg c
    let r' := r.1.run rest
    (r'.1, r.2 :: r'.2)

end BreakerState

namespace CircuitBreakers

variable (cb : CircuitBreakers)

@[simp] theorem step_config (c : BreakerCall) : (cb.step c).1.config = cb.config := by
  cases c <;> simp only [step, allowRequest, recordSuccess, recordFailure] <;> split <;> rfl

/-- a call moves its own key as the per-key machine does -/
theorem stateOf_step_self (c : BreakerCall) :
    (cb.step c).1.stateOf c.backend = ((cb.stateOf c.backend).step cb.config c).1 := by
  cases c <;>
    simp only [step, allowRequest, recordSuccess, recordFailure, BreakerState.step, BreakerCall.backend] <;>
    split <;> simp [stateOf]

theorem answer_step (c : BreakerCall) : (cb.step c).2 = ((cb.stateOf c.backend).step cb.config c).2 := by
  cases c with
  | allowRequest now backend =>
    simp only [step, allowRequest, BreakerState.step, BreakerCall.backend]
    split <;> rfl
  | recordSuccess | recordFailure => rfl

/-- a call leaves every other key alone -/
theorem stateOf_step_ne (c : BreakerCall) {k : String} (hk : c.backend ≠ k) : (cb.step c).1.stateOf k = cb.stateOf k := by
  cases c <;>
    simp only [step, allowRequest, recordSuccess, recordFailure, BreakerCall.backend] at hk ⊢ <;>
    split <;> simp [stateOf, get_upsert_ne (Ne.symm hk)]

/-- the breakers project onto each key: the key's final state and its answers are those of its own calls, run on
its own state -/
theorem run_project (calls : List BreakerCall) (k : String) :
    ((cb.run calls).1.stateOf k,
      ((calls.zip (cb.run calls).2).filter fun e => decide (e.1.backend = k)).map Prod.snd) =
      (cb.stateOf k).run cb.config (calls.filter fun c => decide (c.backend = k)) := by
  induction calls generalizing cb with
  | nil => rfl
  | cons c rest ih =>
    have ih' := ih (cb.step c).1
    rw [step_config] at ih'
    by_cases hk : c.backend = k
    · subst hk
      rw [stateOf_step_self] at ih'
      simp only [run, List.zip_cons_cons, List.filter_cons, decide_true, if_true, List.map_cons,
        BreakerState.run, ← answer_step, ← ih']
    · rw [stateOf_step_ne cb c hk] at ih'
      simp only [run, List.zip_cons_cons, List.filter_cons, hk, decide_false]
      exact ih'

end CircuitBreakers

/-! ## A straggler's success closes an open breaker -/

/-- every record answers an earlier admitted request of its key; `pending k` counts the admitted requests of `k`
that are not answered yet -/
def answered (pending : String → ℕ) : List (BreakerCall × Option Bool) → Bool
  | [] => true
  | (.allowRequest _ k, some true) :: rest => answered (Function.update pending k (pending k + 1)) rest
  | (.allowRequest _ _, _) :: rest => answered pending rest
  | (.recordSuccess _ k, _) :: rest | (.recordFailure _ k, _) :: rest =>
    decide (0 < pending k) && answered (Function.update pending k (pending k - 1)) rest

/-- `Duration::from_secs(1)` in clock ticks -/
def oneSecond : ℕ := 1000 * Lb.nanosPerMilli

/-- requests A and B admitted at 0; A fails at 1, B succeeds at 2; a request at 3 -/
def stragglerTrace : List BreakerCall :=
  [.allowRequest 0 "b", .allowRequest 0 "b", .recordFailure 1 "b", .recordSuccess 2 "b", .allowRequest 3 "b"]

theorem straggler_success_closes_open_breaker :
    (stragglerTrace.map BreakerCall.time).Pairwise (· ≤ ·) ∧
      answered (fun _ => 0) (stragglerTrace.zip ((CircuitBreakers.new true 1 oneSecond 1).run stragglerTrace).2) ∧
      (((CircuitBreakers.new true 1 oneSecond 1).run (stragglerTrace.take 2)).1.stateOf "b").openUntil = none ∧
      (((CircuitBreakers.new true 1 oneSecond 1).run (stragglerTrace.take 3)).1.stateOf "b").openUntil =
        some (1 + oneSecond) ∧
      ((CircuitBreakers.new true 1 oneSecond 1).run stragglerTrace).2 = [some true, some true, none, none, some true] ∧
      3 < 1 + oneSecond := by
  decide

/-! ## What holds without a recorded success -/

namespace BreakerState

variable {cfg : BreakerConfig}

theorem run_cons (st : BreakerState) (c : BreakerCall) (rest : List BreakerCall) :
    st.run cfg (c :: rest) = (((st.step cfg c).1.run cfg rest).1, (st.step cfg c).2 :: ((st.step cfg c).1.run cfg rest).2) :=
  rfl

/-- one call other than a success, before `D`, keeps a deadline of at least `D` and refuses a request -/
theorem step_open (hen : cfg.enabled = true) {st : BreakerState} {D u : ℕ} (hu : st.openUntil = some u) (hD : D ≤ u)
    {c : BreakerCall} (hc : c.isSuccess = false) (htime : c.time < D ∧ D ≤ c.time + cfg.openFor) :
    (st.step cfg c).2 ≠ some true ∧ ∃ u', (st.step cfg c).1.openUntil = some u' ∧ D ≤ u' := by
  cases c with
  | allowRequest now backend =>
    have hlt : now < u := lt_of_lt_of_le htime.1 hD
    simp only [step, hen, Bool.not_true, allow, hu, if_pos hlt]
    exact ⟨by simp, u, hu, hD⟩
  | recordSuccess => simp [BreakerCall.isSuccess] at hc
  | recordFailure now backend =>
    simp only [step, hen, Bool.not_true, Bool.false_eq_true, if_false]
    simp only [BreakerCall.time] at htime
    refine ⟨by simp, ?_⟩
    -- a failure either leaves the deadline or sets a new one, not earlier than `D`
    by_cases hh : st.halfOpen = true
    · exact ⟨now + cfg.openFor, by simp [failure, hh], htime.2⟩
    · by_cases hthr : cfg.failureThreshold ≤ min (st.consecutiveFailures + 1) Counters.u32Max
      · exact ⟨now + cfg.openFor, by simp [failure, hh, hthr], htime.2⟩
      · exact ⟨u, by simp [failure, hh, hthr, hu], hD⟩

/-- (a) while no success is recorded, an open breaker refuses every request before `D`, when `D` is at most its
deadline and every call comes late enough that a failure sets the deadline past `D` -/
theorem allow_open_window (hen : cfg.enabled = true) {D : ℕ} (calls : List BreakerCall) {st : BreakerState}
    (hopen : ∃ u, st.openUntil = some u ∧ D ≤ u) (hsucc : ∀ c ∈ calls, c.isSuccess = false)
    (htime : ∀ c ∈ calls, c.time < D ∧ D ≤ c.time + cfg.openFor) : some true ∉ (st.run cfg calls).2 := by
  induction calls generalizing st with
  | nil => simp [run]
  | cons c rest ih =>
    obtain ⟨u, hu, hD⟩ := hopen
    obtain ⟨hans, hnext⟩ := step_open hen hu hD (hsucc c List.mem_cons_self) (htime c List.mem_cons_self)
    rw [run_cons, List.mem_cons, not_or]
    exact ⟨Ne.symm hans, ih hnext (fun c' h => hsucc c' (List.mem_cons_of_mem _ h))
      (fun c' h => htime c' (List.mem_cons_of_mem _ h))⟩

/-- a breaker open until 10 refuses the requests at 3 and 4, with a failure at 4 between them -/
theorem open_until_ten_refuses :
    some true ∉ (BreakerState.run ⟨true, 1, 10, 1⟩ ⟨0, some 10, 0, false⟩
      [.allowRequest 3 "b", .recordFailure 4 "b", .allowRequest 4 "b"]).2 :=
  @allow_open_window ⟨true, 1, 10, 1⟩ rfl 5 _ _ ⟨10, rfl, by decide⟩ (by decide) (by decide)

/-- the probes a half-open breaker may still admit; an open breaker has all of them ahead -/
def probeBudget (cfg : BreakerConfig) (st : BreakerState) : ℕ :=
  if st.openUntil.isSome then cfg.halfOpenMaxProbes else cfg.halfOpenMaxProbes - st.halfOpenInflight

/-- one request to an open or half-open breaker leaves it open or half-open, and spends a probe when admitted -/
theorem step_probe (hen : cfg.enabled = true) {st : BreakerState} (hst : st.openUntil.isSome ∨ st.halfOpen = true)
    (now : ℕ) (backend : String) :
    ((st.step cfg (.allowRequest now backend)).1.openUntil.isSome ∨
        (st.step cfg (.allowRequest now backend)).1.halfOpen = true) ∧
      (if (st.step cfg (.allowRequest now backend)).2 = some true then 1 else 0) +
        probeBudget cfg (st.step cfg (.allowRequest now backend)).1 ≤ probeBudget cfg st := by
  simp only [step, hen, Bool.not_true, Bool.false_eq_true, if_false]
  cases hu : st.openUntil with
  | some u =>
    by_cases hlt : now < u
    · simp [allow, hu, hlt, probeBudget]
    · -- the deadline has passed: the breaker turns half-open with no probe in flight
      by_cases hmax : cfg.halfOpenMaxProbes ≤ 0
      · simp [allow, hu, hlt, probe, hmax, probeBudget]
      · simp only [allow, hu, if_neg hlt, probe, if_true, if_neg hmax, probeBudget]
        simp
        omega
  | none =>
    have hh : st.halfOpen = true := by simpa [hu] using hst
    by_cases hmax : cfg.halfOpenMaxProbes ≤ st.halfOpenInflight
    · simp [allow, hu, probe, hh, hmax, probeBudget]
    · simp only [allow, hu, probe, hh, if_true, if_neg hmax, probeBudget]
      simp
      omega

/-- (b) before any outcome is recorded, an open or half-open breaker admits at most its probe budget -/
theorem allow_probes_bounded (hen : cfg.enabled = true) (calls : List BreakerCall) {st : BreakerState}
    (hst : st.openUntil.isSome ∨ st.halfOpen = true) (hallow : ∀ c ∈ calls, c.isAllow = true) :
    (st.run cfg calls).2.count (some true) ≤ probeBudget cfg st := by
  induction calls generalizing st with
  | nil => simp [run]
  | cons c rest ih =>
    obtain ⟨now, backend, rfl⟩ : ∃ now backend, c = .allowRequest now backend := by
      have := hallow c List.mem_cons_self
      cases c <;> simp_all [BreakerCall.isAllow]
    obtain ⟨hnext, hbudget⟩ := step_probe hen hst now backend
    have hrest := ih hnext fun c' h => hallow c' (List.mem_cons_of_mem _ h)
    rw [run_cons, List.count_cons]
    by_cases hans : (st.step cfg (.allowRequest now backend)).2 = some true
    · simp only [hans, if_true, beq_self_eq_true] at hbudget ⊢
      omega
    · simp only [hans, if_false, beq_iff_eq] at hbudget ⊢
      omega

/-- past its deadline an open breaker with one probe admits one of three requests -/
theorem open_breaker_admits_one_probe :
    (BreakerState.run ⟨true, 1, 10, 1⟩ ⟨0, some 10, 0, false⟩
      [.allowRequest 12 "b", .allowRequest 13 "b", .allowRequest 14 "b"]).2.count (some true) ≤ 1 :=
  @allow_probes_bounded ⟨true, 1, 10, 1⟩ rfl _ _ (by decide) (by decide)

/-- a closed breaker: no deadline and not half-open -/
def Closed (st : BreakerState) : Prop := st.openUntil = none ∧ st.halfOpen = false

/-- the failure after `n` consecutive ones, on a closed breaker below the threshold: it opens the breaker exactly
when it reaches the threshold -/
theorem failure_closed (hthr : cfg.failureThreshold ≤ Counters.u32Max) {st : BreakerState} (hclosed : Closed st)
    (hlt : st.consecutiveFailures < cfg.failureThreshold) (now : ℕ) :
    st.failure cfg now = if st.consecutiveFailures + 1 = cfg.failureThreshold then
      { st with openUntil := some (now + cfg.openFor), consecutiveFailures := 0 }
    else { st with consecutiveFailures := st.consecutiveFailures + 1 } := by
  obtain ⟨hu, hh⟩ := hclosed
  have hmin : min (st.consecutiveFailures + 1) Counters.u32Max = st.consecutiveFailures + 1 := by omega
  by_cases heq : st.consecutiveFailures + 1 = cfg.failureThreshold
  · have hle : cfg.failureThreshold ≤ min (st.consecutiveFailures + 1) Counters.u32Max := by omega
    rw [if_pos heq]
    simp only [failure, hh, Bool.false_eq_true, if_false, if_pos hle]
  · have hnle : ¬ cfg.failureThreshold ≤ min (st.consecutiveFailures + 1) Counters.u32Max := by omega
    rw [if_neg heq]
    simp only [failure, hh, Bool.false_eq_true, if_false]
    rw [if_neg hnle, hmin]

/-- (c) a closed breaker below the threshold admits every request and only counts failures; the next failure opens
it exactly when it is the one that reaches the threshold -/
theorem failures_open_at_threshold (hen : cfg.enabled = true) (hthr : cfg.failureThreshold ≤ Counters.u32Max)
    (calls : List BreakerCall) {st : BreakerState} (hclosed : Closed st) (hsucc : ∀ c ∈ calls, c.isSuccess = false)
    (hcount : st.consecutiveFailures + calls.countP BreakerCall.isFailure < cfg.failureThreshold) (now : ℕ) :
    (st.run cfg calls).1 =
        { st with consecutiveFailures := st.consecutiveFailures + calls.countP BreakerCall.isFailure } ∧
      some false ∉ (st.run cfg calls).2 ∧
      (((st.run cfg calls).1.failure cfg now).openUntil =
        if st.consecutiveFailures + calls.countP BreakerCall.isFailure + 1 = cfg.failureThreshold then
          some (now + cfg.openFor) else none) := by
  induction calls generalizing st with
  | nil =>
    simp only [List.countP_nil, add_zero] at hcount ⊢
    refine ⟨rfl, by simp [run], ?_⟩
    rw [run, failure_closed hthr hclosed hcount]
    split <;> simp [hclosed.1]
  | cons c rest ih =>
    obtain ⟨hu, hh⟩ := hclosed
    have hrest := fun c' h => hsucc c' (List.mem_cons_of_mem c h)
    cases c with
    | allowRequest t k =>
      -- a closed breaker admits the request and does not change
      have hstep : st.step cfg (.allowRequest t k) = (st, some true) := by
        simp [step, hen, allow, hu, probe, hh]
      have hcount' : st.consecutiveFailures + rest.countP BreakerCall.isFailure < cfg.failureThreshold := by
        simpa [BreakerCall.isFailure] using hcount
      obtain ⟨h₁, h₂, h₃⟩ := ih ⟨hu, hh⟩ hrest hcount'
      simp only [run_cons, hstep, List.countP_cons, BreakerCall.isFailure, Bool.false_eq_true, if_false, add_zero]
      exact ⟨h₁, by simpa using h₂, h₃⟩
    | recordSuccess => simp [BreakerCall.isSuccess] at hsucc
    | recordFailure t k =>
      -- a failure below the threshold is counted and keeps the breaker closed
      simp only [List.countP_cons, BreakerCall.isFailure, if_true] at hcount ⊢
      have hne : st.consecutiveFailures + 1 ≠ cfg.failureThreshold := by omega
      have hstep : st.step cfg (.recordFailure t k) =
          ({ st with consecutiveFailures := st.consecutiveFailures + 1 }, none) := by
        simp [step, hen, failure_closed hthr ⟨hu, hh⟩ (by omega), hne]
      obtain ⟨h₁, h₂, h₃⟩ := @ih { st with consecutiveFailures := st.consecutiveFailures + 1 } ⟨hu, hh⟩ hrest
        (by simp only; omega)
      have hsum : st.consecutiveFailures + 1 + rest.countP BreakerCall.isFailure =
          st.consecutiveFailures + (rest.countP BreakerCall.isFailure + 1) := by omega
      simp only [run_cons, hstep] at h₁ h₂ h₃ ⊢
      refine ⟨by rw [h₁, hsum], by simpa using h₂, by rw [h₃, hsum]⟩

/-- with a threshold of 3, one failure is counted and admits everything; a failure at 5 would not open it yet -/
theorem one_failure_below_threshold :
    (BreakerState.run ⟨true, 3, 10, 1⟩ .default [.recordFailure 1 "b", .allowRequest 2 "b"]).1 =
        ⟨1, none, 0, false⟩ ∧
      some false ∉ (BreakerState.run ⟨true, 3, 10, 1⟩ .default [.recordFailure 1 "b", .allowRequest 2 "b"]).2 ∧
      ((BreakerState.run ⟨true, 3, 10, 1⟩ .default [.recordFailure 1 "b", .allowRequest 2 "b"]).1.failure
        ⟨true, 3, 10, 1⟩ 5).openUntil = none :=
  @failures_open_at_threshold ⟨true, 3, 10, 1⟩ rfl (by decide) _ _ ⟨rfl, rfl⟩ (by decide) (by decide) 5

end BreakerState

/-! ## A probe that never reports -/

namespace BreakerState

variable {cfg : BreakerConfig}

/-- half-open with every probe slot taken and no deadline left: only a probe's record can move it -/
def Stuck (cfg : BreakerConfig) (st : BreakerState) : Prop :=
  st.openUntil = none ∧ st.halfOpen = true ∧ cfg.halfOpenMaxProbes ≤ st.halfOpenInflight

theorem allow_of_stuck {st : BreakerState} (h : st.Stuck cfg) (now : ℕ) : st.allow cfg now = (st, false) := by
  obtain ⟨hopen, hhalf, hmax⟩ := h
  simp [allow, hopen, probe, hhalf, hmax]

/-- with one probe slot, the request that finds an open breaker past its deadline is admitted as the probe and
takes the slot -/
theorem allow_past_deadline (hmax : cfg.halfOpenMaxProbes = 1) {st : BreakerState} {u now : ℕ}
    (hu : st.openUntil = some u) (hle : u ≤ now) :
    (st.allow cfg now).2 = true ∧ (st.allow cfg now).1.Stuck cfg := by
  simp [allow, hu, Nat.not_lt.2 hle, probe, hmax, Stuck]

end BreakerState

namespace CircuitBreakers

variable {cb : CircuitBreakers} {backend key : String}

/-- the key's breaker is on and stuck -/
def Stuck (cb : CircuitBreakers) (key : String) : Prop := cb.config.enabled = true ∧ (cb.stateOf key).Stuck cb.config

/-- a stuck key has its own entry: the default state is closed -/
theorem get_of_stuck (h : cb.Stuck key) : get key cb.states = some (cb.stateOf key) := by
  have hhalf := h.2.2.1
  unfold stateOf at hhalf ⊢
  cases hg : get key cb.states with
  | none => simp [hg, BreakerState.default] at hhalf
  | some st => rfl

/-- a stuck key refuses every request and stays as it is -/
theorem allowRequest_of_stuck (h : cb.Stuck key) (now : ℕ) : cb.allowRequest now key = (cb, false) := by
  simp only [allowRequest, h.1, Bool.not_true, Bool.false_eq_true, if_false, BreakerState.allow_of_stuck h.2,
    upsert_of_get (get_of_stuck h)]

theorem Stuck.allowRequest (h : cb.Stuck key) (now : ℕ) (backend : String) : (cb.allowRequest now backend).1.Stuck key := by
  by_cases hk : backend = key
  · subst hk
    rw [allowRequest_of_stuck h]
    exact h
  · have hcfg := step_config cb (.allowRequest now backend)
    have hst := stateOf_step_ne cb (.allowRequest now backend) (k := key) hk
    simp only [step] at hcfg hst
    exact ⟨hcfg ▸ h.1, by rw [hst, hcfg]; exact h.2⟩

theorem Stuck.recordSuccess (h : cb.Stuck key) (hk : backend ≠ key) : (cb.recordSuccess backend).Stuck key := by
  have hcfg := step_config cb (.recordSuccess 0 backend)
  have hst := stateOf_step_ne cb (.recordSuccess 0 backend) (k := key) hk
  simp only [step] at hcfg hst
  exact ⟨hcfg ▸ h.1, by rw [hst, hcfg]; exact h.2⟩

theorem Stuck.recordFailure (h : cb.Stuck key) (hk : backend ≠ key) (now : ℕ) :
    (cb.recordFailure now backend).Stuck key := by
  have hcfg := step_config cb (.recordFailure now backend)
  have hst := stateOf_step_ne cb (.recordFailure now backend) (k := key) hk
  simp only [step] at hcfg hst
  exact ⟨hcfg ▸ h.1, by rw [hst, hcfg]; exact h.2⟩

/-- an open key past its deadline, with one probe slot, admits the request as its probe and is then stuck until
that probe reports -/
theorem allowRequest_past_deadline (hen : cb.config.enabled = true) (hmax : cb.config.halfOpenMaxProbes = 1) {u now : ℕ}
    (hu : (cb.stateOf key).openUntil = some u) (hle : u ≤ now) :
    (cb.allowRequest now key).2 = true ∧ (cb.allowRequest now key).1.Stuck key := by
  have hcfg := step_config cb (.allowRequest now key)
  have hst := stateOf_step_self cb (.allowRequest now key)
  have hans := answer_step cb (.allowRequest now key)
  simp only [step, BreakerCall.backend, BreakerState.step, hen, Bool.not_true, Bool.false_eq_true, if_false] at hcfg hst hans
  obtain ⟨hadm, hstuck⟩ := BreakerState.allow_past_deadline hmax hu hle
  refine ⟨by simpa [hadm] using hans, hcfg ▸ hen, ?_⟩
  rw [hst, hcfg]
  exact hstuck

end CircuitBreakers

end Spooky.Edge
