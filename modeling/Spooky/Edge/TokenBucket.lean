/-
Token buckets for QUIC accepts (`crates/edge/src/quic_listener/token_bucket.rs`) and for scoped rate limits
(`crates/edge/src/resilience/scoped_rate_limit.rs`).

Both `try_consume` bodies are one computation: refill lazily for the time elapsed since the previous call (clamped to
the burst), then take a token if one is whole. Token arithmetic is over ℚ (the claim's exact reading of the `f64`
code, where a refill is always finite, so the `!refill.is_finite()` branch never runs) and `Instant::now()` is an
input, in seconds. `saturating_duration_since` is `max (now - last) 0`.

Results (`rate_conformance`), for a bucket created with rate r = max(rate, 1) and burst b = max(burst, 1):
- over any nondecreasing call times, at most b + r * (e - s) calls succeed within a window [s, e];
- the level stays within [0, b] whatever the calls and reconfigurations;
- `reconfigure r' b'` leaves at most b' tokens.
The proof carries the level a call would see at a time t (`refilled`) as a potential: every success inside the window
spends one unit of it, and it grows by at most r per second.
-/
import Mathlib.Tactic

namespace Spooky.Edge

/-! ## The refill arithmetic of both buckets -/

/-- the tokens earned since the last refill -/
def refill (rate lastRefill now : ℚ) : ℚ := max (now - lastRefill) 0 * rate

/-- the level a call at `now` sees: the refill for the elapsed time added, clamped to the burst -/
def refilled (burst rate tokens lastRefill now : ℚ) : ℚ :=
  if 0 < refill rate lastRefill now then min (tokens + refill rate lastRefill now) burst else tokens

/-- take one token if a whole one is there: the new level and whether the call succeeds -/
def takeToken (level : ℚ) : ℚ × Bool := if 1 ≤ level then (level - 1, true) else (level, false)

/-- the calls at times `ts` from a level `tokens` last refilled at `last`: each call's time and result -/
def outcomes (burst rate : ℚ) : ℚ → ℚ → List ℚ → List (ℚ × Bool)
  | _, _, [] => []
  | tokens, last, t :: ts =>
    (t, (takeToken (refilled burst rate tokens last t)).2) ::
      outcomes burst rate (takeToken (refilled burst rate tokens last t)).1 t ts

/-- the successful calls within the window [s, e] -/
def admittedIn (s e : ℚ) (os : List (ℚ × Bool)) : ℕ := os.countP fun o => o.2 && decide (s ≤ o.1) && decide (o.1 ≤ e)

section Arithmetic

variable {burst rate tokens last now : ℚ}

theorem refilled_le_burst (rate last now : ℚ) (hb : tokens ≤ burst) : refilled burst rate tokens last now ≤ burst := by
  unfold refilled
  split
  · exact min_le_right _ _
  · exact hb

theorem refilled_nonneg (ht : 0 ≤ tokens) (hb : 0 ≤ burst) : 0 ≤ refilled burst rate tokens last now := by
  unfold refilled
  split
  · rename_i hr
    exact le_min (by linarith) hb
  · exact ht

theorem refill_nonneg (hrate : 0 ≤ rate) : 0 ≤ refill rate last now := by
  unfold refill
  positivity

/-- a call at the time of the last refill adds nothing -/
theorem refilled_self : refilled burst rate tokens last last = tokens := by
  simp [refilled, refill]

/-- below the burst, the clamp is the only case split of a refill -/
theorem refilled_eq_min (hrate : 0 ≤ rate) (hb : tokens ≤ burst) :
    refilled burst rate tokens last now = min (tokens + refill rate last now) burst := by
  unfold refilled
  split
  · rfl
  · have : refill rate last now = 0 := le_antisymm (not_lt.1 ‹_›) (refill_nonneg hrate)
    rw [this, add_zero, min_eq_left hb]

theorem refill_le_add (last : ℚ) (hrate : 0 ≤ rate) {t₀ t : ℚ} (ht : t₀ ≤ t) :
    refill rate last t ≤ refill rate last t₀ + rate * (t - t₀) := by
  unfold refill
  have : max (t - last) 0 ≤ max (t₀ - last) 0 + (t - t₀) := by
    rcases le_total (t - last) 0 with h | h <;> rcases le_total (t₀ - last) 0 with h' | h' <;>
      simp [h, h'] <;> linarith
  nlinarith

/-- the potential grows by at most `rate` per second -/
theorem refilled_le_add (last : ℚ) (hrate : 0 ≤ rate) (hb : tokens ≤ burst) {t₀ t : ℚ} (ht : t₀ ≤ t) :
    refilled burst rate tokens last t ≤ refilled burst rate tokens last t₀ + rate * (t - t₀) := by
  rw [refilled_eq_min hrate hb, refilled_eq_min hrate hb]
  have hd := refill_le_add last hrate ht
  have hmono : 0 ≤ rate * (t - t₀) := mul_nonneg hrate (by linarith)
  rcases le_total (tokens + refill rate last t₀) burst with h | h
  · rw [min_eq_left h]
    exact (min_le_left _ _).trans (by linarith)
  · rw [min_eq_right h]
    exact (min_le_right _ _).trans (by linarith)

theorem takeToken_nonneg {level : ℚ} (h : 0 ≤ level) : 0 ≤ (takeToken level).1 := by
  unfold takeToken
  split
  · simp only; linarith
  · exact h

theorem takeToken_le {level : ℚ} : (takeToken level).1 ≤ level := by
  unfold takeToken
  split <;> simp

/-- what a call spends: its success plus the level it leaves is the level it saw -/
theorem takeToken_spend (level : ℚ) : (if (takeToken level).2 then (1 : ℚ) else 0) + (takeToken level).1 = level := by
  unfold takeToken
  split <;> simp

end Arithmetic

/-! ## Runs of the shared machine -/

section Runs

variable {burst rate : ℚ}

/-- a level within [0, burst] stays there -/
theorem step_level_bounds (rate last t : ℚ) {tokens : ℚ} (h0 : 0 ≤ tokens) (hb : tokens ≤ burst) :
    0 ≤ (takeToken (refilled burst rate tokens last t)).1 ∧ (takeToken (refilled burst rate tokens last t)).1 ≤ burst :=
  ⟨takeToken_nonneg (refilled_nonneg h0 (h0.trans hb)), takeToken_le.trans (refilled_le_burst rate last t hb)⟩

/-- calls all later than `e` admit nothing inside [s, e] -/
theorem admittedIn_after (s e tokens last : ℚ) (ts : List ℚ) (h : ∀ t ∈ ts, e < t) :
    admittedIn s e (outcomes burst rate tokens last ts) = 0 := by
  induction ts generalizing tokens last with
  | nil => rfl
  | cons t ts ih =>
    have ht : ¬ t ≤ e := not_le.2 (h t (List.mem_cons_self ..))
    simp only [outcomes, admittedIn, List.countP_cons, ht, decide_false, Bool.and_false] at ih ⊢
    simpa using ih _ _ fun u hu => h u (List.mem_cons_of_mem _ hu)

/-- the window from a point `t₀` inside it: what succeeds there is bounded by the potential at `t₀` plus the refill
over the rest of the window -/
theorem admittedIn_from (hrate : 0 ≤ rate) (s e : ℚ) (ts : List ℚ) (hts : ts.Pairwise (· ≤ ·)) :
    ∀ tokens last t₀, 0 ≤ tokens → tokens ≤ burst → s ≤ t₀ → t₀ ≤ e → (∀ t ∈ ts, t₀ ≤ t) →
      (admittedIn s e (outcomes burst rate tokens last ts) : ℚ) ≤ refilled burst rate tokens last t₀ + rate * (e - t₀) := by
  induction ts with
  | nil =>
    intro tokens last t₀ h0 hb _ he _
    have : 0 ≤ refilled burst rate tokens last t₀ := refilled_nonneg h0 (h0.trans hb)
    simp only [outcomes, admittedIn, List.countP_nil, Nat.cast_zero]
    nlinarith
  | cons t ts ih =>
    intro tokens last t₀ h0 hb hs he hge
    have ht₀ : t₀ ≤ t := hge t (List.mem_cons_self ..)
    obtain ⟨hrest, htail⟩ := List.pairwise_cons.1 hts
    by_cases hte : t ≤ e
    · -- the call at `t` is inside the window: it spends from the level it sees, the rest starts from `t`
      obtain ⟨h0', hb'⟩ := step_level_bounds rate last t h0 hb
      have hih := ih htail _ t t h0' hb' (hs.trans ht₀) hte hrest
      rw [refilled_self] at hih
      have hcount : admittedIn s e (outcomes burst rate tokens last (t :: ts)) =
          (if (takeToken (refilled burst rate tokens last t)).2 then 1 else 0) +
            admittedIn s e (outcomes burst rate (takeToken (refilled burst rate tokens last t)).1 t ts) := by
        simp only [outcomes, admittedIn, List.countP_cons, hte, decide_true, Bool.and_true,
          show s ≤ t from hs.trans ht₀]
        split <;> simp_all [Nat.add_comm]
      have hspend := takeToken_spend (refilled burst rate tokens last t)
      have hgrow := refilled_le_add last hrate hb ht₀
      rw [hcount]
      push_cast [Nat.cast_ite]
      linarith
    · rw [admittedIn_after s e tokens last (t :: ts) fun u hu => ?_]
      · have : 0 ≤ refilled burst rate tokens last t₀ := refilled_nonneg h0 (h0.trans hb)
        simp only [Nat.cast_zero]
        nlinarith
      · rcases List.mem_cons.1 hu with rfl | hu
        · exact lt_of_not_ge hte
        · exact lt_of_lt_of_le (lt_of_not_ge hte) (hrest u hu)

/-- the whole run: calls before `s` only move the level, which never exceeds the burst -/
theorem admittedIn_le (hrate : 0 ≤ rate) (s e : ℚ) (hse : s ≤ e) (ts : List ℚ) (hts : ts.Pairwise (· ≤ ·)) :
    ∀ tokens last, 0 ≤ tokens → tokens ≤ burst →
      (admittedIn s e (outcomes burst rate tokens last ts) : ℚ) ≤ burst + rate * (e - s) := by
  induction ts with
  | nil =>
    intro tokens last h0 hb
    simp only [outcomes, admittedIn, List.countP_nil, Nat.cast_zero]
    nlinarith
  | cons t ts ih =>
    intro tokens last h0 hb
    obtain ⟨hrest, htail⟩ := List.pairwise_cons.1 hts
    by_cases hts' : t < s
    · obtain ⟨h0', hb'⟩ := step_level_bounds rate last t h0 hb
      have hcount : admittedIn s e (outcomes burst rate tokens last (t :: ts)) =
          admittedIn s e (outcomes burst rate (takeToken (refilled burst rate tokens last t)).1 t ts) := by
        simp [outcomes, admittedIn, not_le.2 hts']
      rw [hcount]
      exact ih htail _ _ h0' hb'
    · have hfrom := admittedIn_from hrate s e (t :: ts) hts tokens last s h0 hb le_rfl hse fun u hu => by
        rcases List.mem_cons.1 hu with rfl | hu
        · exact not_lt.1 hts'
        · exact (not_lt.1 hts').trans (hrest u hu)
      have := refilled_le_burst rate last s hb
      linarith

end Runs

/-! ## The two buckets -/

structure TokenBucket where
  burst : ℚ
  ratePerSec : ℚ
  tokens : ℚ
  lastRefill : ℚ
deriving DecidableEq, Repr

structure ScopedRateLimitBucket where
  burst : ℚ
  ratePerSec : ℚ
  tokens : ℚ
  lastRefill : ℚ
  lastSeen : ℚ
deriving DecidableEq, Repr

namespace TokenBucket

/-- `TokenBucket::new` at clock value `now`: a full bucket -/
def new (ratePerSec burst : ℕ) (now : ℚ) : TokenBucket :=
  ⟨(max burst 1 : ℕ), (max ratePerSec 1 : ℕ), (max burst 1 : ℕ), now⟩

def tryConsume (now : ℚ) (b : TokenBucket) : TokenBucket × Bool :=
  (⟨b.burst, b.ratePerSec, (takeToken (refilled b.burst b.ratePerSec b.tokens b.lastRefill now)).1, now⟩,
    (takeToken (refilled b.burst b.ratePerSec b.tokens b.lastRefill now)).2)

def reconfigure (ratePerSec burst : ℕ) (now : ℚ) (b : TokenBucket) : TokenBucket :=
  ⟨(max burst 1 : ℕ), (max ratePerSec 1 : ℕ), min b.tokens (max burst 1 : ℕ), now⟩

/-- each call's time and result, calling at the times `ts` -/
def calls : TokenBucket → List ℚ → List (ℚ × Bool)
  | _, [] => []
  | b, t :: ts => (t, (b.tryConsume t).2) :: calls (b.tryConsume t).1 ts

theorem calls_eq (b : TokenBucket) (ts : List ℚ) :
    b.calls ts = outcomes b.burst b.ratePerSec b.tokens b.lastRefill ts := by
  induction ts generalizing b with
  | nil => rfl
  | cons t ts ih => simp [calls, outcomes, tryConsume, ih]

end TokenBucket

namespace ScopedRateLimitBucket

/-- `ScopedRateLimitBucket::new` at clock value `now`: a full bucket -/
def new (ratePerSec burst : ℕ) (now : ℚ) : ScopedRateLimitBucket :=
  ⟨(max burst 1 : ℕ), (max ratePerSec 1 : ℕ), (max burst 1 : ℕ), now, now⟩

def tryConsume (now : ℚ) (b : ScopedRateLimitBucket) : ScopedRateLimitBucket × Bool :=
  (⟨b.burst, b.ratePerSec, (takeToken (refilled b.burst b.ratePerSec b.tokens b.lastRefill now)).1, now, now⟩,
    (takeToken (refilled b.burst b.ratePerSec b.tokens b.lastRefill now)).2)

def calls : ScopedRateLimitBucket → List ℚ → List (ℚ × Bool)
  | _, [] => []
  | b, t :: ts => (t, (b.tryConsume t).2) :: calls (b.tryConsume t).1 ts

theorem calls_eq (b : ScopedRateLimitBucket) (ts : List ℚ) :
    b.calls ts = outcomes b.burst b.ratePerSec b.tokens b.lastRefill ts := by
  induction ts generalizing b with
  | nil => rfl
  | cons t ts ih => simp [calls, outcomes, tryConsume, ih]

/-- the bucket after calls at the times `ts` -/
def after (b : ScopedRateLimitBucket) (ts : List ℚ) : ScopedRateLimitBucket := ts.foldl (fun b t => (b.tryConsume t).1) b

theorem after_bounds (b : ScopedRateLimitBucket) (ts : List ℚ) (h0 : 0 ≤ b.tokens) (hb : b.tokens ≤ b.burst) :
    0 ≤ (b.after ts).tokens ∧ (b.after ts).tokens ≤ b.burst ∧ (b.after ts).burst = b.burst := by
  induction ts generalizing b with
  | nil => exact ⟨h0, hb, rfl⟩
  | cons t ts ih =>
    obtain ⟨h0', hb'⟩ := step_level_bounds b.ratePerSec b.lastRefill t h0 hb
    exact ih (b.tryConsume t).1 h0' hb'

end ScopedRateLimitBucket

/-! ## Reachable token buckets -/

inductive BucketOp where
  | tryConsume (now : ℚ)
  | reconfigure (ratePerSec burst : ℕ) (now : ℚ)
deriving DecidableEq, Repr

namespace TokenBucket

def step (b : TokenBucket) : BucketOp → TokenBucket
  | .tryConsume now => (b.tryConsume now).1
  | .reconfigure ratePerSec burst now => b.reconfigure ratePerSec burst now

def run (b : TokenBucket) (ops : List BucketOp) : TokenBucket := ops.foldl step b

/-- the level lies within [0, burst] -/
structure Valid (b : TokenBucket) : Prop where
  tokens_nonneg : 0 ≤ b.tokens
  tokens_le : b.tokens ≤ b.burst

theorem valid_new (ratePerSec burst : ℕ) (now : ℚ) : Valid (new ratePerSec burst now) :=
  ⟨by simp [new], le_rfl⟩

theorem step_valid (b : TokenBucket) (op : BucketOp) (h : Valid b) : Valid (b.step op) := by
  cases op with
  | tryConsume now =>
    obtain ⟨h0, hb⟩ := step_level_bounds b.ratePerSec b.lastRefill now h.1 h.2
    exact ⟨h0, hb⟩
  | reconfigure ratePerSec burst now =>
    exact ⟨le_min h.1 (by positivity), min_le_right _ _⟩

theorem run_valid (b : TokenBucket) (ops : List BucketOp) (h : Valid b) : Valid (b.run ops) := by
  induction ops generalizing b with
  | nil => exact h
  | cons op ops ih => exact ih _ (step_valid b op h)

/-- calls alone never change the burst -/
theorem run_calls_burst (b : TokenBucket) (ts : List ℚ) : (b.run (ts.map .tryConsume)).burst = b.burst := by
  induction ts generalizing b with
  | nil => rfl
  | cons t ts ih => exact ih _

end TokenBucket

/-- Token-bucket rate conformance: windows admit at most burst plus rate times the window's length, for both
buckets; levels stay within [0, burst]; a reconfiguration caps the level at the new burst. -/
theorem rate_conformance (rate burst : ℕ) (created : ℚ) :
    (∀ ts : List ℚ, ts.Pairwise (· ≤ ·) → ∀ s e : ℚ, s ≤ e →
      (admittedIn s e ((TokenBucket.new rate burst created).calls ts) : ℚ) ≤
        (max burst 1 : ℕ) + (max rate 1 : ℕ) * (e - s)) ∧
    (∀ ts : List ℚ, ts.Pairwise (· ≤ ·) → ∀ s e : ℚ, s ≤ e →
      (admittedIn s e ((ScopedRateLimitBucket.new rate burst created).calls ts) : ℚ) ≤
        (max burst 1 : ℕ) + (max rate 1 : ℕ) * (e - s)) ∧
    (∀ ts : List ℚ, 0 ≤ ((TokenBucket.new rate burst created).run (ts.map .tryConsume)).tokens ∧
      ((TokenBucket.new rate burst created).run (ts.map .tryConsume)).tokens ≤ (max burst 1 : ℕ)) ∧
    (∀ ts : List ℚ, 0 ≤ ((ScopedRateLimitBucket.new rate burst created).after ts).tokens ∧
      ((ScopedRateLimitBucket.new rate burst created).after ts).tokens ≤ (max burst 1 : ℕ)) ∧
    (∀ (ops : List BucketOp) (rate' burst' : ℕ) (now : ℚ),
      0 ≤ ((TokenBucket.new rate burst created).run ops).tokens ∧
      ((TokenBucket.new rate burst created).run ops).tokens ≤ ((TokenBucket.new rate burst created).run ops).burst ∧
      (((TokenBucket.new rate burst created).run ops).reconfigure rate' burst' now).tokens ≤ (max burst' 1 : ℕ)) := by
  have hrate : (0 : ℚ) ≤ (max rate 1 : ℕ) := by positivity
  have hburst : (0 : ℚ) ≤ (max burst 1 : ℕ) := by positivity
  refine ⟨?_, ?_, ?_, ?_, ?_⟩
  · intro ts hts s e hse
    rw [TokenBucket.calls_eq]
    exact admittedIn_le hrate s e hse ts hts _ _ hburst le_rfl
  · intro ts hts s e hse
    rw [ScopedRateLimitBucket.calls_eq]
    exact admittedIn_le hrate s e hse ts hts _ _ hburst le_rfl
  · intro ts
    have hv := TokenBucket.run_valid _ (ts.map .tryConsume) (TokenBucket.valid_new rate burst created)
    have hb := hv.2
    rw [TokenBucket.run_calls_burst] at hb
    exact ⟨hv.1, hb⟩
  · intro ts
    obtain ⟨h0, hb, -⟩ := ScopedRateLimitBucket.after_bounds (ScopedRateLimitBucket.new rate burst created) ts hburst
      le_rfl
    exact ⟨h0, hb⟩
  · intro ops rate' burst' now
    have hv := TokenBucket.run_valid _ ops (TokenBucket.valid_new rate burst created)
    exact ⟨hv.1, hv.2, min_le_right _ _⟩

/-- a burst of two at one token per second, created at 0 and called three times at 0 and once at 1: each bucket
refuses the third call at 0 and admits the one at 1, three calls within [0, 1], which is the bound -/
theorem rate_conformance_tight :
    [(0 : ℚ), 0, 0, 1].Pairwise (· ≤ ·) ∧
    admittedIn 0 1 ((TokenBucket.new 1 2 0).calls [0, 0, 0, 1]) = 3 ∧
    admittedIn 0 1 ((ScopedRateLimitBucket.new 1 2 0).calls [0, 0, 0, 1]) = 3 ∧
    (admittedIn 0 1 ((TokenBucket.new 1 2 0).calls [0, 0, 0, 1]) : ℚ) ≤ (max 2 1 : ℕ) + (max 1 1 : ℕ) * (1 - 0) ∧
    (admittedIn 0 1 ((ScopedRateLimitBucket.new 1 2 0).calls [0, 0, 0, 1]) : ℚ) ≤
      (max 2 1 : ℕ) + (max 1 1 : ℕ) * (1 - 0) :=
  ⟨by decide, by decide +kernel, by decide +kernel,
    (rate_conformance 1 2 0).1 _ (by decide) 0 1 (by norm_num),
    (rate_conformance 1 2 0).2.1 _ (by decide) 0 1 (by norm_num)⟩

end Spooky.Edge
