/-
The scoped rate limits of the edge (`crates/edge/src/resilience/scoped_rate_limit.rs`) and the pre-admission policy
that applies them after local auth and brownout shedding (`crates/edge/src/quic_listener/admission.rs`, with the
brownout controller of `crates/edge/src/resilience/brownout.rs` and the key resolution of
`resolve_scoped_rate_limit_key` in `crates/edge/src/quic_listener/forwarding/mod.rs`).

A rule keeps one token bucket per key, in a map behind a mutex. `allow` first evicts, once the map holds 64 buckets,
every bucket last seen `idle_ttl` or more ago, and then takes a token from the key's bucket, made full if the key has
none. `check` tries the rules in order and stops at the first one that refuses. Each call on a rule holds its mutex,
so the calls of concurrent requests form one sequence per rule, whose clock readings never go down. A call reads the
clock once: the code's readings inside one call (in `retain`, in `new` and in `try_consume`) are nanoseconds apart
and only grow, which changes no answer below. The fail-open answer of a poisoned mutex is left out: nothing in the
critical section panics. The answers of local auth (API keys, HS256 JWTs) are inputs.

Results:
- `allowRun_key_answers`: when `idle_ttl × rate ≥ burst` eviction cannot be seen: over every sequence of calls on a
  rule, each key gets the answers of one bucket that runs that key's calls alone and is never dropped, so a key's
  successes in any window [s, e] are at most `burst + rate × (e − s)` (`allowRun_window_bound`).
- `eviction_refills_idle_key`: without that condition a key can exceed the bound: once 64 buckets are held and all
  are idle, the eviction empties the map and the key's next call finds a full bucket.
- `check_refused_spends_earlier_rules`: a request refused by a rule has taken a token from every rule before it that
  applies to it with a non-empty key.

A refusal's retry-after, `ceil(1 / rate)` seconds, is one second for every rate (`fromConfig_retryAfterSeconds`).
-/
import Spooky.Edge.TokenBucket
import Spooky.Edge.Admission
import Spooky.Edge.LbKey
import Spooky.Lib.KeyedList

namespace Spooky.Edge

open KeyedList

/-! ## Rules -/

inductive ScopedRateLimitScope where
  | route
  | client
  | tenant
  | token
deriving DecidableEq, Repr

/-- `spooky_config::config::ScopedRateLimit` -/
structure ScopedRateLimitConfig where
  name : String
  scope : ScopedRateLimitScope
  requestsPerSec : ℕ
  burst : ℕ
  key : Option (List Char)
  routeAllowlist : List String
  idleTtlSecs : ℕ
deriving DecidableEq, Repr

/-- a rule, with its buckets by key: a `HashMap`, so no key has two buckets -/
structure ScopedRateLimitRule where
  name : String
  scope : ScopedRateLimitScope
  keySpec : Option (List Char)
  routeAllowlist : List String
  /-- `Duration::from_secs`, in seconds -/
  idleTtl : ℕ
  retryAfterSeconds : ℕ
  ratePerSec : ℕ
  burst : ℕ
  buckets : List (List Char × ScopedRateLimitBucket)
  buckets_nodup : (buckets.map Prod.fst).Nodup

namespace ScopedRateLimitRule

def fromConfig (config : ScopedRateLimitConfig) : ScopedRateLimitRule where
  name := config.name
  scope := config.scope
  keySpec := config.key
  routeAllowlist := config.routeAllowlist
  idleTtl := max config.idleTtlSecs 1
  retryAfterSeconds := max ⌈(1 : ℚ) / (max config.requestsPerSec 1 : ℕ)⌉₊ 1
  ratePerSec := max config.requestsPerSec 1
  burst := max config.burst 1
  buckets := []
  buckets_nodup := List.nodup_nil

def appliesToRoute (route : String) (rule : ScopedRateLimitRule) : Bool :=
  rule.routeAllowlist.isEmpty || rule.routeAllowlist.contains route

/-- the `retain` that opens `allow`: once the map holds 64 buckets, only those seen less than `idle_ttl` ago stay -/
def evictIdle (now : ℚ) (rule : ScopedRateLimitRule) : List (List Char × ScopedRateLimitBucket) :=
  if 64 ≤ rule.buckets.length then retain (fun b => decide (max (now - b.lastSeen) 0 < rule.idleTtl)) rule.buckets
  else rule.buckets

theorem evictIdle_nodup (now : ℚ) (rule : ScopedRateLimitRule) : ((rule.evictIdle now).map Prod.fst).Nodup := by
  unfold evictIdle
  split
  · exact nodup_retain _ rule.buckets_nodup
  · exact rule.buckets_nodup

/-- `allow` at clock reading `now`: the rule after the call, and its answer -/
def allow (key : List Char) (now : ℚ) (rule : ScopedRateLimitRule) : ScopedRateLimitRule × Bool :=
  let consumed :=
    ((get key (rule.evictIdle now)).getD (ScopedRateLimitBucket.new rule.ratePerSec rule.burst now)).tryConsume now
  ({ rule with buckets := upsert key consumed.1 (rule.evictIdle now),
               buckets_nodup := nodup_upsert (rule.evictIdle_nodup now) },
    consumed.2)

/-- calls on the rule one after another, each a key and a clock reading: the rule after them and each answer -/
def allowRun (rule : ScopedRateLimitRule) : List (List Char × ℚ) → ScopedRateLimitRule × List Bool
  | [] => (rule, [])
  | (key, now) :: calls =>
    let rest := (rule.allow key now).1.allowRun calls
    (rest.1, (rule.allow key now).2 :: rest.2)

/-- the answers to the calls of one key, each with its clock reading -/
def keyAnswers (k : List Char) (calls : List (List Char × ℚ)) (answers : List Bool) : List (ℚ × Bool) :=
  ((calls.zip answers).filter fun e => decide (e.1.1 = k)).map fun e => (e.1.2, e.2)

/-- the clock readings of one key's calls -/
def keyTimes (k : List Char) (calls : List (List Char × ℚ)) : List ℚ :=
  (calls.filter fun c => decide (c.1 = k)).map Prod.snd

@[simp] theorem allow_ratePerSec (key : List Char) (now : ℚ) (rule : ScopedRateLimitRule) :
    (rule.allow key now).1.ratePerSec = rule.ratePerSec := rfl

@[simp] theorem allow_burst (key : List Char) (now : ℚ) (rule : ScopedRateLimitRule) :
    (rule.allow key now).1.burst = rule.burst := rfl

@[simp] theorem allow_idleTtl (key : List Char) (now : ℚ) (rule : ScopedRateLimitRule) :
    (rule.allow key now).1.idleTtl = rule.idleTtl := rfl

theorem allow_buckets (key : List Char) (now : ℚ) (rule : ScopedRateLimitRule) :
    (rule.allow key now).1.buckets =
      upsert key (((get key (rule.evictIdle now)).getD
        (ScopedRateLimitBucket.new rule.ratePerSec rule.burst now)).tryConsume now).1 (rule.evictIdle now) := rfl

/-- every `u32` rate gives a retry-after of one second -/
theorem fromConfig_retryAfterSeconds (config : ScopedRateLimitConfig) :
    (fromConfig config).retryAfterSeconds = 1 := by
  have hpos : (0 : ℚ) < (max config.requestsPerSec 1 : ℕ) := by positivity
  have hle : (1 : ℚ) / (max config.requestsPerSec 1 : ℕ) ≤ 1 := by
    rw [div_le_one hpos]
    exact_mod_cast le_max_right _ _
  have hceil : ⌈(1 : ℚ) / (max config.requestsPerSec 1 : ℕ)⌉₊ ≤ 1 := Nat.ceil_le.2 (by simpa using hle)
  simp only [fromConfig]
  omega

end ScopedRateLimitRule

/-! ## Eviction -/

namespace ScopedRateLimitRule

variable {rule : ScopedRateLimitRule} {now : ℚ} {k : List Char} {b : ScopedRateLimitBucket}

/-- what the eviction keeps was there before it -/
theorem get_evictIdle_of_some (h : get k (rule.evictIdle now) = some b) : get k rule.buckets = some b := by
  unfold evictIdle at h
  split at h
  · rw [get_retain _ rule.buckets_nodup] at h
    exact (Option.filter_eq_some_iff.1 h).1
  · exact h

/-- what the eviction drops had been idle for `idle_ttl` -/
theorem idle_of_evicted (h : get k (rule.evictIdle now) = none) (hb : get k rule.buckets = some b) :
    (rule.idleTtl : ℚ) ≤ max (now - b.lastSeen) 0 := by
  unfold evictIdle at h
  split at h
  · rw [get_retain _ rule.buckets_nodup, hb, Option.filter_eq_none_iff] at h
    exact not_lt.1 fun hlt => h b rfl (decide_eq_true hlt)
  · rw [h] at hb
    cases hb

end ScopedRateLimitRule

/-! ## A bucket that never goes

A bucket that sat idle for `idle_ttl` has refilled to its burst when `idle_ttl × rate ≥ burst`, so a full bucket
made in its place answers the same and ends the call in the same state. -/

/-- a bucket as `allow` leaves it: the rule's rate and burst, a level within [0, burst], refilled when it was last
seen, and last seen no later than `now` -/
structure ScopedRateLimitBucket.Fits (rate burst : ℕ) (now : ℚ) (b : ScopedRateLimitBucket) : Prop where
  burst_eq : b.burst = (max burst 1 : ℕ)
  rate_eq : b.ratePerSec = (max rate 1 : ℕ)
  tokens_nonneg : 0 ≤ b.tokens
  tokens_le : b.tokens ≤ b.burst
  refill_eq : b.lastRefill = b.lastSeen
  seen_le : b.lastSeen ≤ now

namespace ScopedRateLimitBucket

variable {rate burst : ℕ} {now t : ℚ} {b : ScopedRateLimitBucket}

theorem Fits.mono (h : b.Fits rate burst now) (ht : now ≤ t) : b.Fits rate burst t :=
  { h with seen_le := h.seen_le.trans ht }

theorem fits_new (rate burst : ℕ) (now : ℚ) : (new rate burst now).Fits rate burst now :=
  ⟨rfl, rfl, by simp [new], le_rfl, rfl, le_rfl⟩

/-- a call leaves a bucket that fits, seen at the call -/
theorem Fits.tryConsume (h : b.Fits rate burst now) (t : ℚ) : (b.tryConsume t).1.Fits rate burst t := by
  obtain ⟨h0, hb⟩ := step_level_bounds b.ratePerSec b.lastRefill t h.tokens_nonneg h.tokens_le
  exact ⟨h.burst_eq, h.rate_eq, h0, hb, rfl, le_rfl⟩

/-- a refill of at least the burst fills the bucket -/
theorem refilled_of_idle {burst' rate' tokens last : ℚ} (h0 : 0 ≤ tokens) (hpos : 0 < burst')
    (hidle : burst' ≤ refill rate' last t) : refilled burst' rate' tokens last t = burst' := by
  unfold refilled
  rw [if_pos (hpos.trans_le hidle)]
  exact min_eq_right (by linarith)

/-- a bucket idle for `ttl`, with `ttl × rate ≥ burst`, answers a call as a full bucket made at the call -/
theorem tryConsume_of_idle (ttl : ℕ) (h : b.Fits rate burst now) (hidle : (max burst 1 : ℕ) ≤ ttl * max rate 1)
    (hseen : b.lastSeen + ttl ≤ t) : b.tryConsume t = (new rate burst t).tryConsume t := by
  have hrefill : ((max burst 1 : ℕ) : ℚ) ≤ refill b.ratePerSec b.lastRefill t := by
    have hgap : (ttl : ℚ) ≤ max (t - b.lastRefill) 0 := by
      rw [h.refill_eq]
      exact le_max_of_le_left (by linarith)
    have hcast : ((max burst 1 : ℕ) : ℚ) ≤ (ttl : ℚ) * (max rate 1 : ℕ) := by exact_mod_cast hidle
    rw [refill, h.rate_eq]
    exact hcast.trans (mul_le_mul_of_nonneg_right hgap (by positivity))
  have hfull : refilled ((max burst 1 : ℕ) : ℚ) ((max rate 1 : ℕ) : ℚ) b.tokens b.lastRefill t = (max burst 1 : ℕ) := by
    rw [← h.rate_eq]
    exact refilled_of_idle h.tokens_nonneg (by positivity) hrefill
  simp only [tryConsume, new, h.burst_eq, h.rate_eq, hfull, refilled_self]

/-- what a bucket that is never dropped answers to calls at the times `ts`: the bucket `b`, or else a full one made
at the first call -/
def callsFrom (rate burst : ℕ) : Option ScopedRateLimitBucket → List ℚ → List (ℚ × Bool)
  | some b, ts => b.calls ts
  | none, [] => []
  | none, t :: ts => (new rate burst t).calls (t :: ts)

end ScopedRateLimitBucket

/-! ## The rule against buckets that are never evicted -/

/-- `allow` on buckets that are never evicted -/
def idealAllow (rate burst : ℕ) (key : List Char) (now : ℚ) (m : List (List Char × ScopedRateLimitBucket)) :
    List (List Char × ScopedRateLimitBucket) × Bool :=
  let consumed := ((get key m).getD (ScopedRateLimitBucket.new rate burst now)).tryConsume now
  (upsert key consumed.1 m, consumed.2)

def idealRun (rate burst : ℕ) (m : List (List Char × ScopedRateLimitBucket)) :
    List (List Char × ℚ) → List (List Char × ScopedRateLimitBucket) × List Bool
  | [] => (m, [])
  | (key, now) :: calls =>
    let rest := idealRun rate burst (idealAllow rate burst key now m).1 calls
    (rest.1, (idealAllow rate burst key now m).2 :: rest.2)

/-- the buckets that are never evicted answer each key as its own bucket, which the other keys' calls never touch -/
theorem idealRun_project (rate burst : ℕ) (k : List Char) :
    ∀ (calls : List (List Char × ℚ)) (m : List (List Char × ScopedRateLimitBucket)),
      ScopedRateLimitRule.keyAnswers k calls (idealRun rate burst m calls).2 =
        ScopedRateLimitBucket.callsFrom rate burst (get k m) (ScopedRateLimitRule.keyTimes k calls)
  | [], m => by
    cases get k m <;> rfl
  | (key, now) :: calls, m => by
    have ih := idealRun_project rate burst k calls (idealAllow rate burst key now m).1
    simp only [ScopedRateLimitRule.keyAnswers, ScopedRateLimitRule.keyTimes] at ih ⊢
    by_cases hk : key = k
    · subst hk
      -- the call is the key's: its bucket, or a full one, answers and goes on with the rest
      rw [idealAllow, get_upsert_self] at ih
      cases hm : get key m with
      | none =>
        simp only [hm, Option.getD_none] at ih
        simp [idealRun, idealAllow, hm, ScopedRateLimitBucket.callsFrom, ScopedRateLimitBucket.calls, ih]
      | some b =>
        simp only [hm, Option.getD_some] at ih
        simp [idealRun, idealAllow, hm, ScopedRateLimitBucket.callsFrom, ScopedRateLimitBucket.calls, ih]
    · rw [idealAllow, get_upsert_ne (Ne.symm hk)] at ih
      simp only [idealRun, List.zip_cons_cons, List.filter_cons, hk, decide_false]
      exact ih

namespace ScopedRateLimitRule

/-- the rule's buckets against buckets that are never evicted: these have distinct keys, include every bucket the
rule holds, all fit, and each one the rule has dropped was idle for `idle_ttl` -/
structure Tracks (rule : ScopedRateLimitRule) (ideal : List (List Char × ScopedRateLimitBucket)) (now : ℚ) : Prop where
  nodup : (ideal.map Prod.fst).Nodup
  kept : ∀ k b, get k rule.buckets = some b → get k ideal = some b
  dropped : ∀ k b, get k ideal = some b → get k rule.buckets = none → b.lastSeen + rule.idleTtl ≤ now
  fits : ∀ k b, get k ideal = some b → b.Fits rule.ratePerSec rule.burst now

theorem tracks_fromConfig (config : ScopedRateLimitConfig) (now : ℚ) : Tracks (fromConfig config) [] now :=
  ⟨List.nodup_nil, fun _ _ h => by simp [fromConfig] at h, fun _ _ h => by simp at h, fun _ _ h => by simp at h⟩

section Step

variable {rule : ScopedRateLimitRule} {m : List (List Char × ScopedRateLimitBucket)} {now t : ℚ}

/-- a key the rule has no bucket for after the eviction, but the ideal has, was idle for `idle_ttl` at `t` -/
theorem Tracks.idle_at (h : rule.Tracks m now) (ht : now ≤ t) (hpos : 0 < rule.idleTtl) {k : List Char}
    {b : ScopedRateLimitBucket} (hk : get k (rule.evictIdle t) = none) (hm : get k m = some b) :
    b.lastSeen + rule.idleTtl ≤ t := by
  cases hr : get k rule.buckets with
  | none => exact (h.dropped k b hm hr).trans (by linarith)
  | some b' =>
    -- evicted now: the rule's bucket is the ideal's, and it was idle for the whole `idle_ttl`
    have hb : b' = b := Option.some.inj ((h.kept k b' hr).symm.trans hm)
    subst hb
    have hgap := idle_of_evicted hk hr
    have httl : (0 : ℚ) < rule.idleTtl := by exact_mod_cast hpos
    rcases le_max_iff.1 hgap with hgap | hgap
    · linarith
    · linarith

/-- the bucket `allow` takes from, and the ideal's, answer the call alike -/
theorem Tracks.consume_eq (h : rule.Tracks m now) (ht : now ≤ t)
    (hidle : (max rule.burst 1 : ℕ) ≤ rule.idleTtl * max rule.ratePerSec 1) (k : List Char) :
    ((get k (rule.evictIdle t)).getD (ScopedRateLimitBucket.new rule.ratePerSec rule.burst t)).tryConsume t =
      ((get k m).getD (ScopedRateLimitBucket.new rule.ratePerSec rule.burst t)).tryConsume t := by
  have hpos : 0 < rule.idleTtl := by
    rcases Nat.eq_zero_or_pos rule.idleTtl with h0 | h0
    · rw [h0, zero_mul] at hidle
      omega
    · exact h0
  cases hk : get k (rule.evictIdle t) with
  | some b => rw [h.kept k b (get_evictIdle_of_some hk), Option.getD_some]
  | none =>
    cases hm : get k m with
    | none => rfl
    | some b =>
      rw [Option.getD_none, Option.getD_some]
      exact (ScopedRateLimitBucket.tryConsume_of_idle rule.idleTtl (h.fits k b hm) hidle
        (h.idle_at ht hpos hk hm)).symm

/-- one call keeps the rule tracking the ideal -/
theorem Tracks.allow (h : rule.Tracks m now) (ht : now ≤ t)
    (hidle : (max rule.burst 1 : ℕ) ≤ rule.idleTtl * max rule.ratePerSec 1) (key : List Char) :
    (rule.allow key t).1.Tracks (idealAllow rule.ratePerSec rule.burst key t m).1 t := by
  have hpos : 0 < rule.idleTtl := by
    rcases Nat.eq_zero_or_pos rule.idleTtl with h0 | h0
    · rw [h0, zero_mul] at hidle
      omega
    · exact h0
  have hc := h.consume_eq ht hidle key
  set c := ((get key m).getD (ScopedRateLimitBucket.new rule.ratePerSec rule.burst t)).tryConsume t
  have hbuckets : (rule.allow key t).1.buckets = upsert key c.1 (rule.evictIdle t) := by
    rw [allow_buckets, hc]
  have hcfits : c.1.Fits rule.ratePerSec rule.burst t := by
    cases hm : get key m with
    | none =>
      simp only [c, hm, Option.getD_none]
      exact (ScopedRateLimitBucket.fits_new _ _ t).tryConsume t
    | some b =>
      simp only [c, hm, Option.getD_some]
      exact ((h.fits key b hm).mono ht).tryConsume t
  refine ⟨nodup_upsert h.nodup, fun j b hj => ?_, fun j b hj hr => ?_, fun j b hj => ?_⟩
  · -- kept: the call's key holds the new bucket in both; another key's bucket survived the eviction
    rw [hbuckets] at hj
    by_cases hjk : j = key
    · subst hjk
      rw [get_upsert_self] at hj
      rw [idealAllow, get_upsert_self, ← hj]
    · rw [get_upsert_ne hjk] at hj
      rw [idealAllow, get_upsert_ne hjk]
      exact h.kept j b (get_evictIdle_of_some hj)
  · -- dropped: not the call's key, which both hold; either dropped before or evicted by this call
    rw [hbuckets] at hr
    have hjk : j ≠ key := by
      rintro rfl
      rw [get_upsert_self] at hr
      cases hr
    rw [idealAllow, get_upsert_ne hjk] at hj
    rw [get_upsert_ne hjk] at hr
    simpa using h.idle_at ht hpos hr hj
  · by_cases hjk : j = key
    · subst hjk
      rw [idealAllow, get_upsert_self] at hj
      rw [← Option.some.inj hj]
      exact hcfits
    · rw [idealAllow, get_upsert_ne hjk] at hj
      exact (h.fits j b hj).mono ht

end Step

/-- over every sequence of calls at nondecreasing clock readings, the rule answers as the buckets that are never
evicted -/
theorem allowRun_answers_eq {rule : ScopedRateLimitRule} (hidle : (max rule.burst 1 : ℕ) ≤ rule.idleTtl * max rule.ratePerSec 1) :
    ∀ (calls : List (List Char × ℚ)) (m : List (List Char × ScopedRateLimitBucket)) (now : ℚ),
      rule.Tracks m now → (∀ c ∈ calls, now ≤ c.2) → (calls.map Prod.snd).Pairwise (· ≤ ·) →
        (rule.allowRun calls).2 = (idealRun rule.ratePerSec rule.burst m calls).2 := by
  intro calls
  induction calls generalizing rule with
  | nil => intro m now _ _ _; rfl
  | cons c calls ih =>
    obtain ⟨key, t⟩ := c
    intro m now htr hnow hpw
    obtain ⟨hrest, htail⟩ := List.pairwise_cons.1 hpw
    have ht : now ≤ t := hnow (key, t) (List.mem_cons_self ..)
    have hans : (rule.allow key t).2 = (idealAllow rule.ratePerSec rule.burst key t m).2 := by
      simp only [allow, idealAllow]
      rw [htr.consume_eq ht hidle key]
    have hnext := @ih (rule.allow key t).1 (by simpa using hidle) _ t (htr.allow ht hidle key)
      (fun c hc => hrest c.2 (List.mem_map_of_mem hc)) htail
    simp only [allowRun, idealRun, hans, List.cons.injEq, true_and]
    simpa using hnext

end ScopedRateLimitRule

section Answers

variable (config : ScopedRateLimitConfig)

open ScopedRateLimitRule in
/-- Eviction cannot be seen when `idle_ttl × rate ≥ burst`: over every sequence of calls on a rule at nondecreasing
clock readings, the answers to one key's calls are those of one bucket, full at the key's first call, that runs the
key's calls alone and is never dropped. -/
theorem allowRun_key_answers
    (hidle : max config.burst 1 ≤ max config.idleTtlSecs 1 * max config.requestsPerSec 1)
    (calls : List (List Char × ℚ)) (hcalls : (calls.map Prod.snd).Pairwise (· ≤ ·)) (k : List Char) :
    keyAnswers k calls ((fromConfig config).allowRun calls).2 =
      ScopedRateLimitBucket.callsFrom (max config.requestsPerSec 1) (max config.burst 1) none (keyTimes k calls) := by
  have hidle' : (max (fromConfig config).burst 1 : ℕ) ≤
      (fromConfig config).idleTtl * max (fromConfig config).ratePerSec 1 := by
    simpa [fromConfig] using hidle
  -- start the ideal empty, at the first call's reading
  have htr := tracks_fromConfig config (((calls.map Prod.snd).head?).getD 0)
  have hfirst : ∀ c ∈ calls, ((calls.map Prod.snd).head?).getD 0 ≤ c.2 := by
    cases calls with
    | nil => simp
    | cons c₀ rest =>
      intro c hc
      rcases List.mem_cons.1 hc with rfl | hc
      · simp
      · simpa using (List.pairwise_cons.1 hcalls).1 c.2 (List.mem_map_of_mem hc)
  rw [allowRun_answers_eq hidle' calls [] _ htr hfirst hcalls, idealRun_project]
  simp [fromConfig]

open ScopedRateLimitRule in
/-- a key's successes within any window [s, e] are at most `burst + rate × (e − s)` -/
theorem allowRun_window_bound
    (hidle : max config.burst 1 ≤ max config.idleTtlSecs 1 * max config.requestsPerSec 1)
    (calls : List (List Char × ℚ)) (hcalls : (calls.map Prod.snd).Pairwise (· ≤ ·)) (k : List Char) (s e : ℚ)
    (hse : s ≤ e) :
    (admittedIn s e (keyAnswers k calls ((fromConfig config).allowRun calls).2) : ℚ) ≤
      (max config.burst 1 : ℕ) + (max config.requestsPerSec 1 : ℕ) * (e - s) := by
  rw [allowRun_key_answers config hidle calls hcalls k]
  have hts : (keyTimes k calls).Pairwise (· ≤ ·) := hcalls.sublist (List.filter_sublist.map Prod.snd)
  have hrate : (0 : ℚ) ≤ (max config.requestsPerSec 1 : ℕ) := by positivity
  generalize keyTimes k calls = ts at hts
  cases ts with
  | nil =>
    have : (0 : ℚ) ≤ (max config.burst 1 : ℕ) + (max config.requestsPerSec 1 : ℕ) * (e - s) := by
      have : (0 : ℚ) ≤ (max config.requestsPerSec 1 : ℕ) * (e - s) := mul_nonneg hrate (by linarith)
      positivity
    simpa [ScopedRateLimitBucket.callsFrom, admittedIn] using this
  | cons t ts =>
    -- the bucket made at the first call is full, with the rule's burst and rate
    have hnew : ScopedRateLimitBucket.new (max config.requestsPerSec 1) (max config.burst 1) t =
        ScopedRateLimitBucket.new config.requestsPerSec config.burst t := by
      simp [ScopedRateLimitBucket.new]
    have hburst : (0 : ℚ) ≤ (max config.burst 1 : ℕ) := by positivity
    rw [ScopedRateLimitBucket.callsFrom, hnew, ScopedRateLimitBucket.calls_eq]
    exact admittedIn_le hrate s e hse _ hts _ _ hburst le_rfl

end Answers

/-! ## Without the condition an idle key gets its burst back

Once the map holds 64 buckets and all of them have been idle for `idle_ttl`, the eviction empties it, and a key that
had spent its burst finds a full bucket: it refills by the whole burst, where its own bucket would have refilled by
`idle_ttl × rate` only. -/

namespace ScopedRateLimitRule

@[simp] theorem allowRun_ratePerSec : ∀ (rule : ScopedRateLimitRule) (calls : List (List Char × ℚ)),
    (rule.allowRun calls).1.ratePerSec = rule.ratePerSec
  | _, [] => rfl
  | rule, (key, now) :: calls => (allowRun_ratePerSec (rule.allow key now).1 calls).trans rfl

@[simp] theorem allowRun_burst : ∀ (rule : ScopedRateLimitRule) (calls : List (List Char × ℚ)),
    (rule.allowRun calls).1.burst = rule.burst
  | _, [] => rfl
  | rule, (key, now) :: calls => (allowRun_burst (rule.allow key now).1 calls).trans rfl

@[simp] theorem allowRun_idleTtl : ∀ (rule : ScopedRateLimitRule) (calls : List (List Char × ℚ)),
    (rule.allowRun calls).1.idleTtl = rule.idleTtl
  | _, [] => rfl
  | rule, (key, now) :: calls => (allowRun_idleTtl (rule.allow key now).1 calls).trans rfl

theorem allowRun_length : ∀ (rule : ScopedRateLimitRule) (calls : List (List Char × ℚ)),
    (rule.allowRun calls).2.length = calls.length
  | _, [] => rfl
  | rule, (key, now) :: calls => by
    simp [allowRun, allowRun_length (rule.allow key now).1 calls]

theorem allowRun_append (rule : ScopedRateLimitRule) (xs ys : List (List Char × ℚ)) :
    (rule.allowRun (xs ++ ys)).2 = (rule.allowRun xs).2 ++ ((rule.allowRun xs).1.allowRun ys).2 := by
  induction xs generalizing rule with
  | nil => rfl
  | cons c xs ih =>
    obtain ⟨key, now⟩ := c
    simp [allowRun, ih]

theorem keyAnswers_append (k : List Char) {xs ys : List (List Char × ℚ)} {as bs : List Bool}
    (h : xs.length = as.length) : keyAnswers k (xs ++ ys) (as ++ bs) = keyAnswers k xs as ++ keyAnswers k ys bs := by
  simp [keyAnswers, List.zip_append h]

variable {rule : ScopedRateLimitRule} {now : ℚ}

/-- at the clock reading every bucket was last seen at, the eviction keeps them all -/
theorem evictIdle_of_seen (hpos : 0 < rule.idleTtl) (h : ∀ e ∈ rule.buckets, e.2.lastSeen = now) :
    rule.evictIdle now = rule.buckets := by
  unfold evictIdle
  split
  · have httl : (0 : ℚ) < rule.idleTtl := by exact_mod_cast hpos
    refine List.filter_eq_self.2 fun e he => ?_
    simp [h e he, httl]
  · rfl

/-- once 64 buckets are held and all have been idle for `idle_ttl`, the eviction drops them all -/
theorem evictIdle_of_all_idle (hlen : 64 ≤ rule.buckets.length)
    (h : ∀ e ∈ rule.buckets, e.2.lastSeen + rule.idleTtl ≤ now) : rule.evictIdle now = [] := by
  unfold evictIdle
  rw [if_pos hlen]
  refine List.filter_eq_nil_iff.2 fun e he => ?_
  have hgap : (rule.idleTtl : ℚ) ≤ max (now - e.2.lastSeen) 0 := le_max_of_le_left (by linarith [h e he])
  intro hp
  exact not_lt.2 hgap (of_decide_eq_true hp)

/-- a call on what the eviction leaves runs as on buckets that are never evicted -/
theorem allow_of_evictIdle {m : List (List Char × ScopedRateLimitBucket)} (h : rule.evictIdle now = m)
    (key : List Char) :
    (rule.allow key now).1.buckets = (idealAllow rule.ratePerSec rule.burst key now m).1 ∧
      (rule.allow key now).2 = (idealAllow rule.ratePerSec rule.burst key now m).2 := by
  subst h
  exact ⟨rfl, rfl⟩

/-- the buckets after a call were last seen at the call, or are untouched -/
theorem mem_allow_buckets {key : List Char} {e : List Char × ScopedRateLimitBucket}
    (he : e ∈ (rule.allow key now).1.buckets) : e.2.lastSeen = now ∨ e ∈ rule.buckets := by
  rw [allow_buckets] at he
  rcases mem_upsert he with rfl | he
  · exact .inl rfl
  · unfold evictIdle at he
    split at he
    · exact .inr (List.mem_of_mem_filter he)
    · exact .inr he

/-- calls all at the reading every bucket was last seen at evict nothing: the rule runs as buckets that are never
evicted, and every bucket is still last seen then -/
theorem allowRun_at (hpos : 0 < rule.idleTtl) :
    ∀ calls : List (List Char × ℚ), (∀ c ∈ calls, c.2 = now) → (∀ e ∈ rule.buckets, e.2.lastSeen = now) →
      (rule.allowRun calls).1.buckets = (idealRun rule.ratePerSec rule.burst rule.buckets calls).1 ∧
      (rule.allowRun calls).2 = (idealRun rule.ratePerSec rule.burst rule.buckets calls).2 ∧
      ∀ e ∈ (rule.allowRun calls).1.buckets, e.2.lastSeen = now := by
  intro calls
  induction calls generalizing rule with
  | nil => exact fun _ hseen => ⟨rfl, rfl, hseen⟩
  | cons c calls ih =>
    obtain ⟨key, t⟩ := c
    intro htimes hseen
    obtain rfl : t = now := htimes (key, t) List.mem_cons_self
    have hstep := allow_of_evictIdle (evictIdle_of_seen hpos hseen) key
    have hseen' : ∀ e ∈ (rule.allow key t).1.buckets, e.2.lastSeen = t := fun e he =>
      (mem_allow_buckets he).elim id (hseen e)
    obtain ⟨h₁, h₂, h₃⟩ := @ih (rule.allow key t).1 hpos (fun c hc => htimes c (List.mem_cons_of_mem _ hc))
      hseen'
    simp only [allow_ratePerSec, allow_burst, hstep.1] at h₁ h₂
    refine ⟨h₁, ?_, h₃⟩
    simp only [allowRun, idealRun, hstep.2, h₂]

/-- calls at `now`, once 64 buckets are held and all have been idle for `idle_ttl`: the first call empties the map,
and the rule then runs as buckets that are never evicted, from none -/
theorem allowRun_after_idle (hpos : 0 < rule.idleTtl) (hlen : 64 ≤ rule.buckets.length)
    (hidle : ∀ e ∈ rule.buckets, e.2.lastSeen + rule.idleTtl ≤ now) :
    ∀ calls : List (List Char × ℚ), (∀ c ∈ calls, c.2 = now) →
      (rule.allowRun calls).2 = (idealRun rule.ratePerSec rule.burst [] calls).2
  | [], _ => rfl
  | (key, t) :: calls, htimes => by
    obtain rfl : t = now := htimes (key, t) List.mem_cons_self
    have hstep := allow_of_evictIdle (evictIdle_of_all_idle hlen hidle) key
    -- after the first call the one bucket left was last seen at it
    have hseen : ∀ e ∈ (rule.allow key t).1.buckets, e.2.lastSeen = t := by
      intro e he
      rw [hstep.1] at he
      dsimp only [idealAllow] at he
      rcases mem_upsert he with rfl | he
      · rfl
      · cases he
    have hrest := (@allowRun_at (rule.allow key t).1 _ hpos calls
      (fun c hc => htimes c (List.mem_cons_of_mem _ hc)) hseen).2.1
    simp only [allow_ratePerSec, allow_burst, hstep.1] at hrest
    simp only [allowRun, idealRun, hstep.2, hrest]

end ScopedRateLimitRule

section Refill

variable {rate burst : ℕ} {j : List Char}

/-- the buckets that are never evicted only gain keys -/
theorem isSome_idealRun_of_isSome :
    ∀ (calls : List (List Char × ℚ)) (m : List (List Char × ScopedRateLimitBucket)),
      (get j m).isSome → (get j (idealRun rate burst m calls).1).isSome
  | [], _, h => h
  | (key, now) :: calls, m, h => by
    refine isSome_idealRun_of_isSome calls _ ?_
    by_cases hk : j = key
    · subst hk
      simp [idealAllow]
    · rwa [idealAllow, get_upsert_ne hk]

/-- every key called has a bucket afterwards -/
theorem isSome_idealRun_of_mem :
    ∀ (calls : List (List Char × ℚ)) (m : List (List Char × ScopedRateLimitBucket)),
      j ∈ calls.map Prod.fst → (get j (idealRun rate burst m calls).1).isSome
  | [], _, h => by cases h
  | (key, now) :: calls, m, h => by
    rcases List.mem_cons.1 h with rfl | h
    · exact isSome_idealRun_of_isSome calls _ (by simp [idealAllow])
    · exact isSome_idealRun_of_mem calls _ h

/-- a bucket refilled at `t` with at least `n` tokens grants `n` calls at `t` -/
theorem ScopedRateLimitBucket.calls_replicate {t : ℚ} :
    ∀ (n : ℕ) (b : ScopedRateLimitBucket), b.lastRefill = t → (n : ℚ) ≤ b.tokens →
      b.calls (List.replicate n t) = List.replicate n (t, true)
  | 0, _, _, _ => rfl
  | n + 1, b, hrefill, htokens => by
    have hone : (1 : ℚ) ≤ b.tokens := by
      have : (0 : ℚ) ≤ n := Nat.cast_nonneg n
      push_cast at htokens
      linarith
    have hlevel : refilled b.burst b.ratePerSec b.tokens b.lastRefill t = b.tokens := by
      rw [hrefill, refilled_self]
    -- the call takes one whole token, and the rest start from the level it leaves
    have hstep : b.tryConsume t = (⟨b.burst, b.ratePerSec, b.tokens - 1, t, t⟩, true) := by
      simp [ScopedRateLimitBucket.tryConsume, hlevel, takeToken, hone]
    have hrest := calls_replicate (t := t) n ⟨b.burst, b.ratePerSec, b.tokens - 1, t, t⟩ rfl (by
      push_cast at htokens
      dsimp only
      linarith)
    simp only [List.replicate_succ, ScopedRateLimitBucket.calls, hstep, hrest]

/-- a full bucket made at `t` grants up to its burst of calls at `t` -/
theorem ScopedRateLimitBucket.callsFrom_replicate (n : ℕ) (hn : n ≤ max burst 1) (t : ℚ) :
    ScopedRateLimitBucket.callsFrom rate burst none (List.replicate n t) = List.replicate n (t, true) := by
  cases n with
  | zero => rfl
  | succ n =>
    rw [List.replicate_succ, ScopedRateLimitBucket.callsFrom, ← List.replicate_succ]
    exact ScopedRateLimitBucket.calls_replicate _ _ rfl (by simp only [ScopedRateLimitBucket.new]; exact_mod_cast hn)

end Refill

/-- a key spends its burst at time 0, 63 other keys are seen at time 0, and the key calls its burst again `idle_ttl`
later -/
def refillTrace (config : ScopedRateLimitConfig) (k : List Char) (fillers : List (List Char)) :
    List (List Char × ℚ) :=
  (List.replicate (max config.burst 1) (k, 0) ++ fillers.map fun f => (f, 0)) ++
    List.replicate (max config.burst 1) (k, ((max config.idleTtlSecs 1 : ℕ) : ℚ))

open ScopedRateLimitRule in
/-- Along `refillTrace` the key is granted twice its burst within [0, idle_ttl]: the eviction at `idle_ttl` gives it
a full bucket, so the window bound `burst + rate × idle_ttl` fails whenever `idle_ttl × rate < burst`. -/
theorem eviction_refills_idle_key (config : ScopedRateLimitConfig) (k : List Char) (fillers : List (List Char))
    (hlen : fillers.length = 63) (hnd : (k :: fillers).Nodup) :
    admittedIn 0 (max config.idleTtlSecs 1 : ℕ)
      (keyAnswers k (refillTrace config k fillers) ((fromConfig config).allowRun (refillTrace config k fillers)).2) =
        2 * max config.burst 1 := by
  set B := max config.burst 1
  set T : ℚ := ((max config.idleTtlSecs 1 : ℕ) : ℚ)
  set first : List (List Char × ℚ) := List.replicate B (k, 0) ++ fillers.map fun f => (f, 0)
  set second : List (List Char × ℚ) := List.replicate B (k, T)
  have hpos : 0 < (fromConfig config).idleTtl := by simp [fromConfig]
  have hT : (0 : ℚ) ≤ T := by positivity
  have hB : 1 ≤ B := le_max_right _ _
  have hkf : k ∉ fillers := (List.nodup_cons.1 hnd).1
  -- the first calls, all at 0, evict nothing and leave every key with a bucket last seen at 0
  have hfirst : ∀ c ∈ first, c.2 = 0 := by
    intro c hc
    rcases List.mem_append.1 hc with hc | hc
    · rw [List.eq_of_mem_replicate hc]
    · obtain ⟨f, -, rfl⟩ := List.mem_map.1 hc
      rfl
  obtain ⟨h₁, h₂, h₃⟩ := @allowRun_at (fromConfig config) 0 hpos first hfirst (by simp [fromConfig])
  have hkeys : (k :: fillers) ⊆ ((fromConfig config).allowRun first).1.buckets.map Prod.fst := by
    intro j hj
    rw [h₁]
    have hmem : j ∈ first.map Prod.fst := by
      rcases List.mem_cons.1 hj with rfl | hj
      · simp [first, List.mem_replicate, B]
      · simp [first, hj]
    have := @isSome_idealRun_of_mem (fromConfig config).ratePerSec (fromConfig config).burst j
      first (fromConfig config).buckets hmem
    rw [Option.isSome_iff_ne_none, Ne, get_eq_none_iff, not_not] at this
    exact this
  have h64 : 64 ≤ ((fromConfig config).allowRun first).1.buckets.length := by
    have := hnd.length_le_of_subset hkeys
    simpa [hlen] using this
  -- the second calls, at `idle_ttl`, find every bucket idle: the first of them empties the map
  have hsecond := @allowRun_after_idle ((fromConfig config).allowRun first).1 T
    (by simpa using hpos) h64 (fun e he => by simp [h₃ e he, fromConfig, T]) second
    (fun c hc => by rw [List.eq_of_mem_replicate hc])
  simp only [allowRun_ratePerSec, allowRun_burst] at hsecond
  have htimes₁ : keyTimes k first = List.replicate B 0 := by
    have hnone : (fillers.map fun f => (f, (0 : ℚ))).filter (fun c => decide (c.1 = k)) = [] :=
      List.filter_eq_nil_iff.2 fun c hc => by
        obtain ⟨f, hf, rfl⟩ := List.mem_map.1 hc
        simpa using fun hfk : f = k => hkf (hfk ▸ hf)
    simp [keyTimes, first, List.filter_append, hnone]
  have htimes₂ : keyTimes k second = List.replicate B T := by
    simp [keyTimes, second]
  rw [refillTrace, allowRun_append, keyAnswers_append k (allowRun_length _ _).symm, h₂, hsecond,
    idealRun_project, idealRun_project, show get k (fromConfig config).buckets = none from rfl, get_nil, htimes₁, htimes₂,
    ScopedRateLimitBucket.callsFrom_replicate B (by simp [fromConfig, B]),
    ScopedRateLimitBucket.callsFrom_replicate B (by simp [fromConfig, B])]
  simp [admittedIn, List.countP_replicate, hT]
  omega

open ScopedRateLimitRule in
/-- So the window bound fails without `idle_ttl × rate ≥ burst`: the clock readings of `refillTrace` never go down,
and within [0, idle_ttl] it grants the key more than `burst + rate × idle_ttl`. -/
theorem eviction_exceeds_window_bound (config : ScopedRateLimitConfig) (k : List Char) (fillers : List (List Char))
    (hlen : fillers.length = 63) (hnd : (k :: fillers).Nodup)
    (hfast : max config.idleTtlSecs 1 * max config.requestsPerSec 1 < max config.burst 1) :
    ((refillTrace config k fillers).map Prod.snd).Pairwise (· ≤ ·) ∧
      (max config.burst 1 : ℕ) + (max config.requestsPerSec 1 : ℕ) * (((max config.idleTtlSecs 1 : ℕ) : ℚ) - 0) <
        admittedIn 0 (max config.idleTtlSecs 1 : ℕ)
          (keyAnswers k (refillTrace config k fillers) ((fromConfig config).allowRun (refillTrace config k fillers)).2) := by
  have hT : (0 : ℚ) ≤ ((max config.idleTtlSecs 1 : ℕ) : ℚ) := by positivity
  -- the readings are 0 up to the last burst of calls, which are all at `idle_ttl`
  have hsnd : (refillTrace config k fillers).map Prod.snd =
      List.replicate (max config.burst 1 + fillers.length) 0 ++
        List.replicate (max config.burst 1) ((max config.idleTtlSecs 1 : ℕ) : ℚ) := by
    simp [refillTrace, Function.comp_def, - List.append_assoc, List.replicate_append_replicate]
  refine ⟨?_, ?_⟩
  · rw [hsnd, List.pairwise_append]
    refine ⟨List.pairwise_replicate.2 (.inr le_rfl), List.pairwise_replicate.2 (.inr le_rfl), fun a ha b hb => ?_⟩
    rw [List.eq_of_mem_replicate ha, List.eq_of_mem_replicate hb]
    exact hT
  · rw [eviction_refills_idle_key config k fillers hlen hnd]
    have hcast : ((max config.idleTtlSecs 1 * max config.requestsPerSec 1 : ℕ) : ℚ) < (max config.burst 1 : ℕ) := by
      exact_mod_cast hfast
    push_cast at hcast ⊢
    linarith

/-- a rate of one per second with a burst of four, and an idle TTL of one second -/
theorem eviction_exceeds_window_bound_burst_four :
    ∃ (config : ScopedRateLimitConfig) (k : List Char) (fillers : List (List Char)),
      ((refillTrace config k fillers).map Prod.snd).Pairwise (· ≤ ·) ∧
        (max config.burst 1 : ℕ) + (max config.requestsPerSec 1 : ℕ) * (((max config.idleTtlSecs 1 : ℕ) : ℚ) - 0) <
          admittedIn 0 (max config.idleTtlSecs 1 : ℕ) (ScopedRateLimitRule.keyAnswers k (refillTrace config k fillers)
            ((ScopedRateLimitRule.fromConfig config).allowRun (refillTrace config k fillers)).2) :=
  ⟨⟨"per-client", .client, 1, 4, none, [], 1⟩, ['k'], (List.range 63).map fun i => List.replicate (i + 2) 'k',
    eviction_exceeds_window_bound _ _ _ (by simp)
      (List.nodup_cons.2 ⟨by simp [List.replicate_succ], List.nodup_range.map fun a b h => by
        simpa using congrArg List.length h⟩)
      (by decide)⟩

/-! ## Checking a request against every rule

`check` consults the rules in order. A rule that does not apply to the route, or that has no key or an empty one for
the request, lets it pass untouched; any other rule takes a token from the key's bucket, and the first refusal ends
the loop. A request consults each rule once, in the state it finds it in. -/

structure ScopedRateLimitRejection where
  ruleName : String
  route : String
  retryAfterSeconds : ℕ
deriving DecidableEq, Repr

namespace ScopedRateLimitRule

@[simp] theorem allow_scope (key : List Char) (now : ℚ) (rule : ScopedRateLimitRule) :
    (rule.allow key now).1.scope = rule.scope := rfl

@[simp] theorem allow_keySpec (key : List Char) (now : ℚ) (rule : ScopedRateLimitRule) :
    (rule.allow key now).1.keySpec = rule.keySpec := rfl

@[simp] theorem allow_routeAllowlist (key : List Char) (now : ℚ) (rule : ScopedRateLimitRule) :
    (rule.allow key now).1.routeAllowlist = rule.routeAllowlist := rfl

/-- the call a request makes on the rule's buckets: its key and clock reading, when the rule applies to its route and
its key is there and not empty -/
def servedCall (route : String) (key : Option (List Char)) (now : ℚ) (rule : ScopedRateLimitRule) :
    Option (List Char × ℚ) :=
  if rule.appliesToRoute route then (key.filter fun key => !key.isEmpty).map fun key => (key, now) else none

/-- one turn of the loop of `check`: the rule after it, and whether the request goes on -/
def consult (route : String) (key : Option (List Char)) (now : ℚ) (rule : ScopedRateLimitRule) :
    ScopedRateLimitRule × Bool :=
  if !rule.appliesToRoute route then (rule, true)
  else
    match key with
    | none => (rule, true)
    | some key => if key.isEmpty then (rule, true) else rule.allow key now

section Consult

variable {route : String} {key : Option (List Char)} {now : ℚ} {rule : ScopedRateLimitRule}

theorem consult_of_servedCall_none (h : rule.servedCall route key now = none) : rule.consult route key now = (rule, true) := by
  unfold servedCall at h
  unfold consult
  by_cases happ : rule.appliesToRoute route
  · rw [if_pos happ] at h
    cases key with
    | none => simp [happ]
    | some key => simp_all
  · simp [happ]

theorem consult_of_servedCall_some {c : List Char × ℚ} (h : rule.servedCall route key now = some c) :
    rule.consult route key now = rule.allow c.1 c.2 := by
  unfold servedCall at h
  unfold consult
  by_cases happ : rule.appliesToRoute route
  · rw [if_pos happ] at h
    obtain ⟨key, hkey, rfl⟩ := Option.map_eq_some_iff.1 h
    obtain ⟨rfl, hne⟩ := Option.filter_eq_some_iff.1 hkey
    simp_all
  · simp [happ] at h

/-- a request that a rule serves with the key `k` at `now`, when `k` is not empty -/
theorem servedCall_eq_some_iff {k : List Char} (hk : k ≠ []) :
    rule.servedCall route key now = some (k, now) ↔ rule.appliesToRoute route ∧ key = some k := by
  unfold servedCall
  by_cases happ : rule.appliesToRoute route
  · cases key with
    | none => simp [happ]
    | some key =>
      by_cases hkey : key = k
      · subst hkey
        simp [happ, Option.filter, hk]
      · simp [happ, Option.filter, hkey]
  · simp [happ]

end Consult

end ScopedRateLimitRule

open ScopedRateLimitRule in
/-- the loop of `ScopedRateLimiters::check` over the rules: the rules after it, and the rejection by the first rule
that refuses -/
def checkRules (route : String) (keyForRule : ScopedRateLimitRule → Option (List Char)) (now : ℚ) :
    List ScopedRateLimitRule → List ScopedRateLimitRule × Option ScopedRateLimitRejection
  | [] => ([], none)
  | rule :: rules =>
    let consulted := rule.consult route (keyForRule rule) now
    if consulted.2 then
      let rest := checkRules route keyForRule now rules
      (consulted.1 :: rest.1, rest.2)
    else (consulted.1 :: rules, some ⟨rule.name, route, rule.retryAfterSeconds⟩)

section CheckRules

variable (route : String) (keyForRule : ScopedRateLimitRule → Option (List Char)) (now : ℚ)

/-- whether a request gets past a rule -/
def checkPasses (rule : ScopedRateLimitRule) : Bool := (rule.consult route (keyForRule rule) now).2

theorem checkRules_cons (rule : ScopedRateLimitRule) (rules : List ScopedRateLimitRule) :
    checkRules route keyForRule now (rule :: rules) =
      if checkPasses route keyForRule now rule then
        ((rule.consult route (keyForRule rule) now).1 :: (checkRules route keyForRule now rules).1,
          (checkRules route keyForRule now rules).2)
      else ((rule.consult route (keyForRule rule) now).1 :: rules, some ⟨rule.name, route, rule.retryAfterSeconds⟩) :=
  rfl

theorem checkRules_length : ∀ rules, (checkRules route keyForRule now rules).1.length = rules.length
  | [] => rfl
  | rule :: rules => by
    rw [checkRules_cons]
    split
    · simp [checkRules_length rules]
    · simp

/-- rule `i` after a check: consulted when the request got past every rule before it, else as it was -/
theorem getElem?_checkRules : ∀ (rules : List ScopedRateLimitRule) (i : ℕ),
    (checkRules route keyForRule now rules).1[i]? =
      if (rules.take i).all (checkPasses route keyForRule now) then
        rules[i]?.map fun rule => (rule.consult route (keyForRule rule) now).1
      else rules[i]?
  | [], i => by simp [checkRules]
  | rule :: rules, 0 => by
    rw [checkRules_cons]
    split <;> simp
  | rule :: rules, i + 1 => by
    rw [checkRules_cons]
    by_cases hpass : checkPasses route keyForRule now rule
    · simp [hpass, getElem?_checkRules rules i]
    · simp [hpass]

/-- a check refuses nothing exactly when the request gets past every rule -/
theorem checkRules_eq_none_iff : ∀ rules : List ScopedRateLimitRule,
    (checkRules route keyForRule now rules).2 = none ↔ rules.all (checkPasses route keyForRule now)
  | [] => by simp [checkRules]
  | rule :: rules => by
    rw [checkRules_cons]
    by_cases hpass : checkPasses route keyForRule now rule
    · simp [hpass, checkRules_eq_none_iff rules]
    · simp [hpass]

/-- a refused request got past every rule before the one that refused it, which served it and found the key's bucket
empty; the rules before it are as the request left them, the rules after it untouched -/
theorem check_refused_spends_earlier_rules : ∀ (rules : List ScopedRateLimitRule) (rej : ScopedRateLimitRejection),
    (checkRules route keyForRule now rules).2 = some rej →
      ∃ pre rule post c, rules = pre ++ rule :: post ∧ pre.all (checkPasses route keyForRule now) ∧
        rule.servedCall route (keyForRule rule) now = some c ∧ (rule.allow c.1 c.2).2 = false ∧
        rej = ⟨rule.name, route, rule.retryAfterSeconds⟩ ∧
        (checkRules route keyForRule now rules).1 =
          pre.map (fun r => (r.consult route (keyForRule r) now).1) ++ (rule.allow c.1 c.2).1 :: post
  | [], rej, h => by simp [checkRules] at h
  | rule :: rules, rej, h => by
    rw [checkRules_cons] at h ⊢
    by_cases hpass : checkPasses route keyForRule now rule
    · -- the request got past the first rule: the refusal is further on
      simp only [hpass, if_true] at h ⊢
      obtain ⟨pre, r, post, c, rfl, hpre, hc, hr, hrej, hrules⟩ := check_refused_spends_earlier_rules rules rej h
      exact ⟨rule :: pre, r, post, c, rfl, by simp [hpass, hpre], hc, hr, hrej, by simp [hrules]⟩
    · -- the first rule refused: it served the request, as a rule that serves nothing lets it pass
      simp only [hpass, Bool.false_eq_true, if_false, Option.some.injEq] at h ⊢
      cases hc : rule.servedCall route (keyForRule rule) now with
      | none => simp [checkPasses, ScopedRateLimitRule.consult_of_servedCall_none hc] at hpass
      | some c =>
        rw [ScopedRateLimitRule.consult_of_servedCall_some hc]
        refine ⟨[], rule, rules, c, rfl, rfl, hc, ?_, h.symm, rfl⟩
        simpa [checkPasses, ScopedRateLimitRule.consult_of_servedCall_some hc] using hpass

end CheckRules

structure ScopedRateLimiters where
  rules : List ScopedRateLimitRule

/-- a request as the limiters see it: its route, its key for a rule of each scope and key spec (what
`resolve_scoped_rate_limit_key` reads of a rule), and the clock reading of its check -/
structure ScopedRateLimitRequest where
  route : String
  keyFor : ScopedRateLimitScope → Option (List Char) → Option (List Char)
  now : ℚ

/-- the closure `check` is given: the request's key for the rule -/
def ScopedRateLimitRequest.keyForRule (request : ScopedRateLimitRequest) (rule : ScopedRateLimitRule) :
    Option (List Char) :=
  request.keyFor rule.scope rule.keySpec

namespace ScopedRateLimiters

def new (rules : List ScopedRateLimitConfig) : ScopedRateLimiters := ⟨rules.map ScopedRateLimitRule.fromConfig⟩

def check (route : String) (keyForRule : ScopedRateLimitRule → Option (List Char)) (now : ℚ)
    (limiters : ScopedRateLimiters) : ScopedRateLimiters × Option ScopedRateLimitRejection :=
  let checked := checkRules route keyForRule now limiters.rules
  (⟨checked.1⟩, checked.2)

/-- requests checked one after another: the limiters after them, and each answer -/
def checkRun (limiters : ScopedRateLimiters) :
    List ScopedRateLimitRequest → ScopedRateLimiters × List (Option ScopedRateLimitRejection)
  | [] => (limiters, [])
  | request :: requests =>
    let checked := limiters.check request.route request.keyForRule request.now
    let rest := checked.1.checkRun requests
    (rest.1, checked.2 :: rest.2)

/-- the call a request makes on rule `i`: none unless it gets past every rule before -/
def callOn (i : ℕ) (request : ScopedRateLimitRequest) (limiters : ScopedRateLimiters) : List (List Char × ℚ) :=
  if (limiters.rules.take i).all (checkPasses request.route request.keyForRule request.now) then
    (limiters.rules[i]?.bind fun rule => rule.servedCall request.route (request.keyForRule rule) request.now).toList
  else []

/-- the calls rule `i` serves along a run -/
def ruleCalls (i : ℕ) (limiters : ScopedRateLimiters) : List ScopedRateLimitRequest → List (List Char × ℚ)
  | [] => []
  | request :: requests =>
    limiters.callOn i request ++
      ruleCalls i (limiters.check request.route request.keyForRule request.now).1 requests

/-- the requests admitted by every rule that `rule` applies to with the key `k`, checked within [s, e] -/
def admittedFor (rule : ScopedRateLimitRule) (k : List Char) (s e : ℚ) (requests : List ScopedRateLimitRequest)
    (answers : List (Option ScopedRateLimitRejection)) : ℕ :=
  (requests.zip answers).countP fun p =>
    p.2.isNone && rule.appliesToRoute p.1.route && decide (p.1.keyForRule rule = some k) && decide (s ≤ p.1.now) &&
      decide (p.1.now ≤ e)

end ScopedRateLimiters

/-! ## Every rule holds its rate over every run

Rule `i` sees, along a run of checks, the calls of the requests that got past every rule before it, and evolves as
`allowRun` over them; a request admitted by every rule took a token from rule `i` when the rule serves it. So the
bound on one rule's answers bounds the requests the limiters admit. -/

namespace ScopedRateLimitRule

@[simp] theorem allowRun_scope : ∀ (rule : ScopedRateLimitRule) (calls : List (List Char × ℚ)),
    (rule.allowRun calls).1.scope = rule.scope
  | _, [] => rfl
  | rule, (key, now) :: calls => (allowRun_scope (rule.allow key now).1 calls).trans rfl

@[simp] theorem allowRun_keySpec : ∀ (rule : ScopedRateLimitRule) (calls : List (List Char × ℚ)),
    (rule.allowRun calls).1.keySpec = rule.keySpec
  | _, [] => rfl
  | rule, (key, now) :: calls => (allowRun_keySpec (rule.allow key now).1 calls).trans rfl

@[simp] theorem allowRun_routeAllowlist : ∀ (rule : ScopedRateLimitRule) (calls : List (List Char × ℚ)),
    (rule.allowRun calls).1.routeAllowlist = rule.routeAllowlist
  | _, [] => rfl
  | rule, (key, now) :: calls => (allowRun_routeAllowlist (rule.allow key now).1 calls).trans rfl

theorem allowRun_append_rule (rule : ScopedRateLimitRule) (xs ys : List (List Char × ℚ)) :
    (rule.allowRun (xs ++ ys)).1 = ((rule.allowRun xs).1.allowRun ys).1 := by
  induction xs generalizing rule with
  | nil => rfl
  | cons c xs ih =>
    obtain ⟨key, now⟩ := c
    simp [allowRun, ih]

theorem servedCall_snd {route : String} {key : Option (List Char)} {now : ℚ} {rule : ScopedRateLimitRule}
    {c : List Char × ℚ} (h : rule.servedCall route key now = some c) : c.2 = now := by
  unfold servedCall at h
  split at h
  · obtain ⟨key, -, rfl⟩ := Option.map_eq_some_iff.1 h
    rfl
  · cases h

end ScopedRateLimitRule

namespace ScopedRateLimiters

open ScopedRateLimitRule

variable (i : ℕ)

/-- rule `i` after a check has served the call the request made on it -/
theorem getElem?_check_rules (request : ScopedRateLimitRequest) (limiters : ScopedRateLimiters) :
    (limiters.check request.route request.keyForRule request.now).1.rules[i]? =
      limiters.rules[i]?.map fun rule => (rule.allowRun (limiters.callOn i request)).1 := by
  simp only [check, getElem?_checkRules, callOn]
  split
  · cases hrule : limiters.rules[i]? with
    | none => rfl
    | some rule =>
      cases hc : rule.servedCall request.route (request.keyForRule rule) request.now with
      | none => simp [hc, consult_of_servedCall_none hc, allowRun]
      | some c => simp [hc, consult_of_servedCall_some hc, allowRun]
  · cases limiters.rules[i]? <;> simp [allowRun]

/-- rule `i` after a run has served, in order, the calls of the requests that got past every rule before it -/
theorem getElem?_checkRun_rules : ∀ (limiters : ScopedRateLimiters) (requests : List ScopedRateLimitRequest),
    (limiters.checkRun requests).1.rules[i]? =
      limiters.rules[i]?.map fun rule => (rule.allowRun (limiters.ruleCalls i requests)).1
  | limiters, [] => by cases hrule : limiters.rules[i]? <;> simp [checkRun, ruleCalls, allowRun, hrule]
  | limiters, request :: requests => by
    simp only [checkRun, ruleCalls, getElem?_checkRun_rules _ requests, getElem?_check_rules, Option.map_map]
    congr 1
    funext rule
    simp [allowRun_append_rule]

/-- the calls rule `i` serves are made at the requests' clock readings, in the run's order -/
theorem ruleCalls_sublist : ∀ (limiters : ScopedRateLimiters) (requests : List ScopedRateLimitRequest),
    ((limiters.ruleCalls i requests).map Prod.snd).Sublist (requests.map ScopedRateLimitRequest.now)
  | _, [] => List.Sublist.slnil
  | limiters, request :: requests => by
    have hhere : ((limiters.callOn i request).map Prod.snd).Sublist [request.now] := by
      unfold callOn
      split
      · cases hrule : limiters.rules[i]? with
        | none => simp
        | some rule =>
          cases hc : rule.servedCall request.route (request.keyForRule rule) request.now with
          | none => simp [hc]
          | some c => simp [hc, servedCall_snd hc]
      · simp
    simpa [ruleCalls] using hhere.append (ruleCalls_sublist _ requests)

/-- a request admitted by every rule, which rule `i` applies to with a key that is not empty, took a token from it -/
theorem callOn_of_admitted {request : ScopedRateLimitRequest} {limiters : ScopedRateLimiters} {rule : ScopedRateLimitRule}
    {k : List Char} (hk : k ≠ []) (hnone : (limiters.check request.route request.keyForRule request.now).2 = none)
    (hrule : limiters.rules[i]? = some rule) (happ : rule.appliesToRoute request.route)
    (hkey : request.keyForRule rule = some k) :
    limiters.callOn i request = [(k, request.now)] ∧ (rule.allow k request.now).2 = true := by
  have hall := (checkRules_eq_none_iff _ _ _ _).1 hnone
  have hc : rule.servedCall request.route (request.keyForRule rule) request.now = some (k, request.now) :=
    (servedCall_eq_some_iff hk).2 ⟨happ, hkey⟩
  have hpass : checkPasses request.route request.keyForRule request.now rule :=
    List.all_eq_true.1 hall rule (List.mem_of_getElem? hrule)
  have hbefore : (limiters.rules.take i).all (checkPasses request.route request.keyForRule request.now) :=
    List.all_eq_true.2 fun r hr => List.all_eq_true.1 hall r (List.mem_of_mem_take hr)
  refine ⟨by simp [callOn, hbefore, hrule, hc], ?_⟩
  simpa [checkPasses, consult_of_servedCall_some hc] using hpass

theorem admittedFor_cons (rule : ScopedRateLimitRule) (k : List Char) (s e : ℚ) (request : ScopedRateLimitRequest)
    (requests : List ScopedRateLimitRequest) (answer : Option ScopedRateLimitRejection)
    (answers : List (Option ScopedRateLimitRejection)) :
    admittedFor rule k s e (request :: requests) (answer :: answers) =
      (if answer.isNone && rule.appliesToRoute request.route && decide (request.keyForRule rule = some k) &&
          decide (s ≤ request.now) && decide (request.now ≤ e) then 1 else 0) +
        admittedFor rule k s e requests answers := by
  simp only [admittedFor, List.zip_cons_cons, List.countP_cons]
  omega

/-- what `admittedFor` reads of a rule does not change along a run -/
theorem admittedFor_allowRun (rule : ScopedRateLimitRule) (calls : List (List Char × ℚ)) :
    admittedFor (rule.allowRun calls).1 = admittedFor rule := by
  funext k s e requests answers
  unfold admittedFor appliesToRoute ScopedRateLimitRequest.keyForRule
  rw [allowRun_routeAllowlist, allowRun_scope, allowRun_keySpec]

/-- the requests the limiters admit, that rule `i` applies to with the key `k`, are at most the key's successes at
rule `i` -/
theorem admittedFor_le_ruleCalls {k : List Char} (hk : k ≠ []) (s e : ℚ) :
    ∀ (limiters : ScopedRateLimiters) (requests : List ScopedRateLimitRequest) (rule : ScopedRateLimitRule),
      limiters.rules[i]? = some rule →
        admittedFor rule k s e requests (limiters.checkRun requests).2 ≤
          admittedIn s e (keyAnswers k (limiters.ruleCalls i requests) (rule.allowRun (limiters.ruleCalls i requests)).2)
  | _, [], _, _ => by simp [admittedFor, checkRun]
  | limiters, request :: requests, rule, hrule => by
    set checked := limiters.check request.route request.keyForRule request.now
    set here := limiters.callOn i request
    have hnext : checked.1.rules[i]? = some (rule.allowRun here).1 := by
      simp [checked, here, getElem?_check_rules, hrule]
    have ih := admittedFor_le_ruleCalls hk s e checked.1 requests _ hnext
    rw [admittedFor_allowRun] at ih
    -- the request counts at most the one success it took from rule `i`
    have hhead : (if checked.2.isNone && rule.appliesToRoute request.route &&
          decide (request.keyForRule rule = some k) && decide (s ≤ request.now) && decide (request.now ≤ e)
          then 1 else 0) ≤ admittedIn s e (keyAnswers k here (rule.allowRun here).2) := by
      split
      · rename_i hcount
        simp only [Bool.and_eq_true, decide_eq_true_eq, Option.isNone_iff_eq_none] at hcount
        obtain ⟨⟨⟨⟨hnone, happ⟩, hkey⟩, hs⟩, he⟩ := hcount
        obtain ⟨hcall, hallow⟩ := callOn_of_admitted i hk hnone hrule happ hkey
        simp [here, hcall, allowRun, hallow, keyAnswers, admittedIn, hs, he]
      · exact Nat.zero_le _
    simp only [checkRun, ruleCalls, admittedFor_cons]
    rw [allowRun_append, keyAnswers_append k (allowRun_length _ _).symm, admittedIn, List.countP_append]
    exact Nat.add_le_add hhead ih

end ScopedRateLimiters

open ScopedRateLimiters ScopedRateLimitRule in
/-- Every rule holds its rate over every run of checks, when `idle_ttl × rate ≥ burst`: among the requests the
limiters admit, those that a rule applies to with a given key, and that are checked within [s, e], are at most
`burst + rate × (e − s)`. -/
theorem checkRun_window_bound (configs : List ScopedRateLimitConfig) {config : ScopedRateLimitConfig}
    (hconfig : config ∈ configs)
    (hidle : max config.burst 1 ≤ max config.idleTtlSecs 1 * max config.requestsPerSec 1)
    (requests : List ScopedRateLimitRequest) (hrequests : (requests.map ScopedRateLimitRequest.now).Pairwise (· ≤ ·))
    {k : List Char} (hk : k ≠ []) (s e : ℚ) (hse : s ≤ e) :
    (admittedFor (fromConfig config) k s e requests ((ScopedRateLimiters.new configs).checkRun requests).2 : ℚ) ≤
      (max config.burst 1 : ℕ) + (max config.requestsPerSec 1 : ℕ) * (e - s) := by
  obtain ⟨i, hi⟩ := List.mem_iff_getElem?.1 hconfig
  have hrule : (ScopedRateLimiters.new configs).rules[i]? = some (fromConfig config) := by
    simp [ScopedRateLimiters.new, hi]
  set calls := (ScopedRateLimiters.new configs).ruleCalls i requests
  have hcalls : (calls.map Prod.snd).Pairwise (· ≤ ·) := hrequests.sublist (ruleCalls_sublist i _ requests)
  calc (admittedFor (fromConfig config) k s e requests ((ScopedRateLimiters.new configs).checkRun requests).2 : ℚ)
      ≤ admittedIn s e (keyAnswers k calls ((fromConfig config).allowRun calls).2) := by
        exact_mod_cast admittedFor_le_ruleCalls i hk s e _ requests _ hrule
    _ ≤ (max config.burst 1 : ℕ) + (max config.requestsPerSec 1 : ℕ) * (e - s) :=
        allowRun_window_bound config hidle calls hcalls k s e hse

end Spooky.Edge
