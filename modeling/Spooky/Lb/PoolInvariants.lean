/-
Invariants of the backend pool over whole runs of its mutating operations (`crates/lb/src/backend_pool.rs`).

The cache: with debug assertions, `mark_healthy` pushes an index and `mark_unhealthy` swap-removes it
(`markHealthy_eq`, `markUnhealthy_eq`), so `healthy` and `healthy_pos` stay inverse to each other and hold exactly the
healthy indices; in the release profile the cache is never updated and keeps every passive backend listed
(`CacheInv`). No run from such a pool panics, in either profile (`run_inv`).

Re-admission: `earliest_readmit` is a lower bound of the pending passive cooldowns (`ReadmitBound`). It is lowered on
every passive ejection and left alone otherwise; a re-ejection restarts a cooldown from a later clock value, so with
clock values that do not go back the bound survives it (`CooldownsBy`). `reconcile_readmit_at` then re-admits every
passive backend whose cooldown has ended (`passive_cooldowns_readmitted`), but it skips its scan while `now` is below
the bound, so after a re-ejection the bound can stay below every cooldown left (`reejection_keeps_stale_readmit`).

Configurations: no call changes a backend's address, weight or health-check configuration, nor the number of
backends (`run_configs`); only health fields move.
-/
import Spooky.Lb.BackendPool
import Spooky.Lib.IndexCache
import Spooky.Lib.Fallible
import Spooky.Lib.Ordered

namespace Spooky.Lb

namespace BackendState

/-- the cooldown end of a backend that no active health check owns: only `reconcile_readmit_at` ends it -/
def passiveCooldown (b : BackendState) : Option ℕ := if b.hasActiveHealthCheck then none else b.cooldownUntil

/-- the cooldown `record_failure` starts, in clock ticks -/
def cooldownNanos (b : BackendState) : ℕ := (b.healthCheck.map HealthCheck.cooldownMs).getD 10000 * nanosPerMilli

/-- one iteration of the loop of `reconcile_readmit_at` on a backend -/
def readmitAt (now : ℕ) (b : BackendState) : BackendState :=
  if b.hasActiveHealthCheck then b else (b.readmitIfExpired now).1

variable {b b' : BackendState}

theorem isHealthy_iff_cooldownUntil (b : BackendState) : b.isHealthy = true ↔ b.cooldownUntil = none := by
  cases h : b.healthState <;> simp [isHealthy, cooldownUntil, h]

theorem passiveCooldown_of_isHealthy (h : b.isHealthy = true) : b.passiveCooldown = none := by
  simp [passiveCooldown, (isHealthy_iff_cooldownUntil b).1 h]

theorem passiveCooldown_of_passive (h : b.hasActiveHealthCheck = false) : b.passiveCooldown = b.cooldownUntil := by
  rw [passiveCooldown, h, if_neg (by simp)]

/-- what no call changes of a backend: its address, weight and health-check configuration -/
def config (b : BackendState) : String × ℕ × Option HealthCheck := (b.address, b.weight, b.healthCheck)

theorem SameConfig.config_eq (h : SameConfig b b') : b'.config = b.config := by
  rw [config, config, h.address, h.weight, h.healthCheck]

theorem SameConfig.hasActiveHealthCheck (h : SameConfig b b') : b'.hasActiveHealthCheck = b.hasActiveHealthCheck := by
  simp [BackendState.hasActiveHealthCheck, h.healthCheck]

theorem SameConfig.cooldownNanos (h : SameConfig b b') : b'.cooldownNanos = b.cooldownNanos := by
  simp [BackendState.cooldownNanos, h.healthCheck]

/-- a configuration-preserving step changes the passive cooldown only through the cooldown end -/
theorem SameConfig.passiveCooldown_eq_some (h : SameConfig b b') {u : ℕ} :
    b'.passiveCooldown = some u ↔ b.hasActiveHealthCheck = false ∧ b'.cooldownUntil = some u := by
  rw [passiveCooldown, h.hasActiveHealthCheck]
  cases b.hasActiveHealthCheck <;> simp

/-- a success ends a cooldown or leaves it -/
theorem cooldownUntil_recordSuccess (now : ℕ) (b : BackendState) :
    (b.recordSuccess now).1.cooldownUntil = none ∨ (b.recordSuccess now).1.cooldownUntil = b.cooldownUntil := by
  unfold recordSuccess
  split
  · rename_i hs
    right
    simp [cooldownUntil, hs]
  · rename_i untilAt successes reason hs
    split
    · right
      rfl
    · dsimp only
      split
      · left
        rfl
      · right
        simp [cooldownUntil, hs]

/-- a failure leaves the cooldown or starts a new one from `now` -/
theorem cooldownUntil_recordFailure (now : ℕ) (reason : HealthFailureReason) (b : BackendState) :
    (b.recordFailure now reason).1.cooldownUntil = b.cooldownUntil ∨
      (b.recordFailure now reason).1.cooldownUntil = some (now + b.cooldownNanos) := by
  unfold recordFailure
  dsimp only
  split
  · left
    rfl
  · right
    rfl

theorem passiveCooldown_recordSuccess {now u : ℕ} (h : (b.recordSuccess now).1.passiveCooldown = some u) :
    b.passiveCooldown = some u := by
  obtain ⟨hact, hu⟩ := (recordSuccess_config now b).passiveCooldown_eq_some.1 h
  rcases cooldownUntil_recordSuccess now b with hnone | hsame
  · rw [hnone] at hu
    cases hu
  · rw [passiveCooldown, hact, ← hsame, hu]
    rfl

theorem passiveCooldown_recordFailure {now u : ℕ} {reason : HealthFailureReason}
    (h : (b.recordFailure now reason).1.passiveCooldown = some u) :
    b.passiveCooldown = some u ∨ u = now + b.cooldownNanos := by
  obtain ⟨hact, hu⟩ := (recordFailure_config now reason b).passiveCooldown_eq_some.1 h
  rcases cooldownUntil_recordFailure now reason b with hsame | hnew
  · left
    rw [passiveCooldown, hact, ← hsame, hu]
    rfl
  · right
    rw [hnew, Option.some.injEq] at hu
    exact hu.symm

theorem readmitAt_config (now : ℕ) (b : BackendState) : SameConfig b (b.readmitAt now) := by
  unfold readmitAt
  split
  · exact ⟨rfl, rfl, rfl⟩
  · exact readmitIfExpired_config now b

/-- the loop of `reconcile_readmit_at` ends exactly the passive cooldowns that are due -/
theorem passiveCooldown_readmitAt (now : ℕ) (b : BackendState) :
    (b.readmitAt now).passiveCooldown = b.passiveCooldown.filter fun u => now < u := by
  cases hact : b.hasActiveHealthCheck
  · have hcfg := readmitIfExpired_config now b
    have hr : b.readmitAt now = (b.readmitIfExpired now).1 := by simp [readmitAt, hact]
    rw [hr, passiveCooldown, passiveCooldown, hcfg.hasActiveHealthCheck, hact, if_neg (by simp), if_neg (by simp)]
    cases hs : b.healthState with
    | healthy => simp [readmitIfExpired, cooldownUntil, hs]
    | unhealthy untilAt successes reason =>
      by_cases hle : untilAt ≤ now
      · simp [readmitIfExpired, cooldownUntil, hs, hle, Option.filter_some, Nat.not_lt.2 hle]
      · simp [readmitIfExpired, cooldownUntil, hs, hle, Option.filter_some, Nat.lt_of_not_le hle]
  · have hr : b.readmitAt now = b := by simp [readmitAt, hact]
    rw [hr, passiveCooldown, hact, if_pos rfl]
    rfl

/-- a passive backend whose cooldown has ended is healthy after the loop of `reconcile_readmit_at` -/
theorem isHealthy_readmitAt {now u : ℕ} (hact : b.hasActiveHealthCheck = false) (hu : b.cooldownUntil = some u)
    (hle : u ≤ now) : (b.readmitAt now).isHealthy = true := by
  cases hs : b.healthState with
  | healthy => simp [cooldownUntil, hs] at hu
  | unhealthy untilAt successes reason =>
    have hut : untilAt = u := by simpa [cooldownUntil, hs] using hu
    simp [readmitAt, hact, readmitIfExpired, hs, isHealthy, hut ▸ hle]

end BackendState

/-- the clock value an operation runs at -/
def PoolOp.now : PoolOp → ℕ
  | .markSuccess now _ => now
  | .markFailure now _ => now
  | .markFailureWithReason now _ _ => now
  | .markRequestFailure now _ _ => now
  | .reconcileReadmitAt now => now

namespace BackendPool

variable {p p' : BackendPool}

/-! ## The membership cache -/

theorem MembershipInv.inverse (h : MembershipInv p) :
    IndexCache.Inverse p.healthy p.healthyPos p.backends.length :=
  ⟨h.lt_length, h.pos_length, h.pos_iff⟩

theorem MembershipInv.of_inverse (h : IndexCache.Inverse p.healthy p.healthyPos p.backends.length)
    (hmem : ∀ i, i ∈ p.healthy ↔ HealthyIndex p i) : MembershipInv p :=
  ⟨h.nodup, h.lt, hmem, h.length, h.pos_iff⟩

/-- `mark_healthy` on an index in range that the cache does not hold pushes it -/
theorem markHealthy_eq {index : ℕ} (h : IndexCache.Inverse p.healthy p.healthyPos p.backends.length)
    (hi : index < p.backends.length) (hni : index ∉ p.healthy) :
    markHealthy index p =
      some ({ p with healthy := p.healthy ++ [index], healthyPos := p.healthyPos.set index (some p.healthy.length) },
        true) := by
  rw [markHealthy, if_neg (by omega), h.pos_none hi hni]

/-- `mark_unhealthy` on an index the cache holds at `q` swap-removes it -/
theorem markUnhealthy_eq {index q : ℕ} (h : IndexCache.Inverse p.healthy p.healthyPos p.backends.length)
    (hq : p.healthyPos[index]? = some (some q)) :
    markUnhealthy index p =
      some ({ p with
        healthy := swapRemove p.healthy q,
        healthyPos := (IndexCache.relink (swapRemove p.healthy q) p.healthyPos q).set index none }, true) := by
  have hqi : p.healthy[q]? = some index := (h.pos_iff index q).1 hq
  have hi : index < p.backends.length := h.lt index (List.mem_iff_getElem?.2 ⟨q, hqi⟩)
  rw [markUnhealthy, if_neg (by omega), hq]
  simp only [hqi, ne_eq, not_true_eq_false, if_false]
  -- the element moved into the hole is one the cache held, so it is in range
  cases hmoved : (swapRemove p.healthy q)[q]? with
  | none => simp [IndexCache.relink, hmoved]
  | some moved =>
    have hmem : moved ∈ p.healthy :=
      ((h.mem_swapRemove hq moved).1 (List.mem_iff_getElem?.2 ⟨q, hmoved⟩)).1
    have hlt : moved < p.healthyPos.length := h.length ▸ h.lt moved hmem
    simp [IndexCache.relink, hmoved, hlt]

theorem healthyIndex_of_getElem? {i : ℕ} {b : BackendState} (hb : p.backends[i]? = some b) :
    HealthyIndex p i ↔ b.isHealthy = true := by
  constructor
  · rintro ⟨c, hc, hh⟩
    rw [hb, Option.some.injEq] at hc
    rw [hc]
    exact hh
  · intro hh
    exact ⟨b, hb, hh⟩

/-- which indices are healthy after the backend at `index` is replaced -/
theorem healthyIndex_set {index : ℕ} {b b' : BackendState} (hb : p.backends[index]? = some b) (i : ℕ) :
    HealthyIndex { p with backends := p.backends.set index b' } i ↔
      if i = index then b'.isHealthy = true else HealthyIndex p i := by
  have hlt : index < p.backends.length := (List.getElem?_eq_some_iff.1 hb).1
  unfold HealthyIndex
  rw [List.getElem?_set]
  by_cases hi : i = index
  · subst hi
    simp [hlt]
  · rw [if_neg (Ne.symm hi), if_neg hi]

/-- replacing a backend keeps the cache's position map the inverse of `healthy`, over as many backends -/
theorem MembershipInv.inverse_set (h : MembershipInv p) (index : ℕ) (b' : BackendState) :
    IndexCache.Inverse p.healthy p.healthyPos (p.backends.set index b').length := by
  rw [List.length_set]
  exact h.inverse

/-- with debug assertions, re-admitting a backend pushes its index -/
theorem MembershipInv.markHealthy {index : ℕ} {b b' : BackendState} (h : MembershipInv p)
    (hb : p.backends[index]? = some b) (hbh : b.isHealthy = false) (hb' : b'.isHealthy = true) :
    ∃ p3, markHealthy index { p with backends := p.backends.set index b' } = some (p3, true) ∧ MembershipInv p3 ∧
      p3.backends = p.backends.set index b' ∧ p3.earliestReadmit = p.earliestReadmit := by
  have hlt : index < p.backends.length := (List.getElem?_eq_some_iff.1 hb).1
  have hni : index ∉ p.healthy := fun hi => by
    have := (healthyIndex_of_getElem? hb).1 ((h.mem_iff index).1 hi)
    rw [hbh] at this
    cases this
  have hinv := h.inverse_set index b'
  refine ⟨_, markHealthy_eq hinv (by rw [List.length_set]; exact hlt) hni, ?_, rfl, rfl⟩
  refine MembershipInv.of_inverse (hinv.push (by rw [List.length_set]; exact hlt) hni) fun i => ?_
  rw [List.mem_append, List.mem_singleton, h.mem_iff]
  change HealthyIndex p i ∨ i = index ↔ HealthyIndex { p with backends := p.backends.set index b' } i
  rw [healthyIndex_set hb]
  by_cases hi : i = index
  · simp [hi, hb']
  · simp [hi]

/-- with debug assertions, ejecting a backend swap-removes its index -/
theorem MembershipInv.markUnhealthy {index : ℕ} {b b' : BackendState} (h : MembershipInv p)
    (hb : p.backends[index]? = some b) (hbh : b.isHealthy = true) (hb' : b'.isHealthy = false) :
    ∃ p3, markUnhealthy index { p with backends := p.backends.set index b' } = some (p3, true) ∧ MembershipInv p3 ∧
      p3.backends = p.backends.set index b' ∧ p3.earliestReadmit = p.earliestReadmit := by
  have hmem : index ∈ p.healthy := (h.mem_iff index).2 ((healthyIndex_of_getElem? hb).2 hbh)
  obtain ⟨q, hq⟩ := (h.inverse.mem_iff index).1 hmem
  have hinv := h.inverse_set index b'
  refine ⟨_, markUnhealthy_eq hinv hq, ?_, rfl, rfl⟩
  refine MembershipInv.of_inverse (hinv.swapRemove hq) fun j => ?_
  rw [swapRemove, hinv.mem_swapRemove hq, h.mem_iff]
  change HealthyIndex p j ∧ j ≠ index ↔ HealthyIndex { p with backends := p.backends.set index b' } j
  rw [healthyIndex_set hb]
  by_cases hj : j = index
  · simp [hj, hb']
  · simp [hj]

/-! ## The cache in each build profile -/

/-- what the cache keeps: with debug assertions the membership invariant; in the release profile, where the cache is
never updated, every backend that no active health check owns stays listed -/
def CacheInv : Bool → BackendPool → Prop
  | true, p => MembershipInv p
  | false, p => ∀ i b, p.backends[i]? = some b → b.hasActiveHealthCheck = false → i ∈ p.healthy

theorem cacheInv_release_set {index : ℕ} {b b' : BackendState} (h : CacheInv false p)
    (hb : p.backends[index]? = some b) (hcfg : BackendState.SameConfig b b') :
    CacheInv false { p with backends := p.backends.set index b' } := by
  intro i c hc hact
  change i ∈ p.healthy
  rw [List.getElem?_set] at hc
  by_cases hi : index = i
  · subst hi
    rw [if_pos rfl, if_pos (List.getElem?_eq_some_iff.1 hb).1, Option.some.injEq] at hc
    subst hc
    exact h index b hb (hcfg.hasActiveHealthCheck ▸ hact)
  · rw [if_neg hi] at hc
    exact h i c hc hact

theorem cacheInv_congr {debug : Bool} (h : CacheInv debug p) (hb : p'.backends = p.backends)
    (hh : p'.healthy = p.healthy) (hpos : p'.healthyPos = p.healthyPos) : CacheInv debug p' := by
  cases debug with
  | false =>
    intro i b hi hact
    rw [hh]
    rw [hb] at hi
    exact h i b hi hact
  | true =>
    have hinv : IndexCache.Inverse p'.healthy p'.healthyPos p'.backends.length := by
      rw [hb, hh, hpos]
      exact MembershipInv.inverse h
    refine MembershipInv.of_inverse hinv fun i => ?_
    unfold HealthyIndex
    rw [hh, hb]
    exact MembershipInv.mem_iff h i

/-- replacing a backend by one as healthy as it keeps the cache -/
theorem cacheInv_set_same {debug : Bool} {index : ℕ} {b b' : BackendState} (h : CacheInv debug p)
    (hb : p.backends[index]? = some b) (hcfg : BackendState.SameConfig b b') (hh : b'.isHealthy = b.isHealthy) :
    CacheInv debug { p with backends := p.backends.set index b' } := by
  cases debug with
  | false => exact cacheInv_release_set h hb hcfg
  | true =>
    have hinv := h.inverse_set index b'
    refine MembershipInv.of_inverse hinv fun i => ?_
    rw [h.mem_iff, healthyIndex_set hb]
    by_cases hi : i = index
    · rw [if_pos hi, hi, healthyIndex_of_getElem? hb, hh]
    · rw [if_neg hi]

/-- a change of health goes through `mark_healthy` or `mark_unhealthy` under `debug_assert!`, which keeps the cache,
does not panic, and touches neither the backends nor the re-admission cache -/
theorem cacheInv_mark {debug : Bool} {index : ℕ} {b b' : BackendState} (h : CacheInv debug p)
    (hb : p.backends[index]? = some b) (hcfg : BackendState.SameConfig b b') (htr : (b.isHealthy != b'.isHealthy) = true) :
    ∃ p3, (if b'.isHealthy then debugAssert debug (markHealthy index) { p with backends := p.backends.set index b' }
        else debugAssert debug (markUnhealthy index) { p with backends := p.backends.set index b' }) = some p3 ∧
      CacheInv debug p3 ∧ p3.backends = p.backends.set index b' ∧ p3.earliestReadmit = p.earliestReadmit := by
  cases debug with
  | false =>
    refine ⟨_, ?_, cacheInv_release_set h hb hcfg, rfl, rfl⟩
    split <;> rfl
  | true =>
    cases hb' : b'.isHealthy with
    | true =>
      have hbh : b.isHealthy = false := by simpa [hb'] using htr
      obtain ⟨p3, hmark, hinv, hback, hearly⟩ := h.markHealthy hb hbh hb'
      exact ⟨p3, by simp [debugAssert, hmark], hinv, hback, hearly⟩
    | false =>
      have hbh : b.isHealthy = true := by simpa [hb'] using htr
      obtain ⟨p3, hmark, hinv, hback, hearly⟩ := h.markUnhealthy hb hbh hb'
      exact ⟨p3, by simp [debugAssert, hmark], hinv, hback, hearly⟩

/-! ## The re-admission bound -/

/-- `earliest_readmit` is a lower bound of every pending passive cooldown -/
def ReadmitBound (p : BackendPool) : Prop :=
  ∀ b ∈ p.backends, ∀ u, b.passiveCooldown = some u → ∃ t, p.earliestReadmit = some t ∧ t ≤ u

/-- every pending passive cooldown started no later than `clock` -/
def CooldownsBy (clock : ℕ) (p : BackendPool) : Prop :=
  ∀ b ∈ p.backends, ∀ u, b.passiveCooldown = some u → u ≤ clock + b.cooldownNanos

/-- the pending passive cooldowns, in the order of the backends -/
def passiveCooldowns (p : BackendPool) : List ℕ := p.backends.filterMap BackendState.passiveCooldown

theorem cooldownsBy_mono {c c' : ℕ} (h : CooldownsBy c p) (hc : c ≤ c') : CooldownsBy c' p :=
  fun b hb u hu => (h b hb u hu).trans (by omega)

theorem readmitBound_congr (h : ReadmitBound p) (hb : p'.backends = p.backends)
    (he : p'.earliestReadmit = p.earliestReadmit) : ReadmitBound p' := by
  unfold ReadmitBound
  rw [hb, he]
  exact h

theorem cooldownsBy_congr {c : ℕ} (h : CooldownsBy c p) (hb : p'.backends = p.backends) : CooldownsBy c p' := by
  unfold CooldownsBy
  rw [hb]
  exact h

theorem recordPassiveCooldown_of_none {b : BackendState} (h : b.passiveCooldown = none) (q : BackendPool) :
    recordPassiveCooldown b q = q := by
  unfold recordPassiveCooldown
  unfold BackendState.passiveCooldown at h
  split
  · rename_i untilAt hact hcu
    rw [hact, if_neg (by simp), hcu] at h
    cases h
  · rfl

theorem recordPassiveCooldown_of_some {b : BackendState} {u : ℕ} (h : b.passiveCooldown = some u) (q : BackendPool) :
    recordPassiveCooldown b q = { q with earliestReadmit := some ((q.earliestReadmit.map (min · u)).getD u) } := by
  obtain ⟨hact, hcu⟩ := (BackendState.SameConfig.passiveCooldown_eq_some ⟨rfl, rfl, rfl⟩).1 h
  unfold recordPassiveCooldown
  rw [hact, hcu]

/-- recording a cooldown touches neither the backends nor the cache -/
theorem recordPassiveCooldown_cache (b : BackendState) (q : BackendPool) :
    (recordPassiveCooldown b q).backends = q.backends ∧ (recordPassiveCooldown b q).healthy = q.healthy ∧
      (recordPassiveCooldown b q).healthyPos = q.healthyPos := by
  unfold recordPassiveCooldown
  split <;> exact ⟨rfl, rfl, rfl⟩

theorem getD_map_min_le (e : Option ℕ) (u : ℕ) : (e.map (min · u)).getD u ≤ u := by
  cases e <;> simp

theorem getD_map_min_le_of_eq {e : Option ℕ} {t : ℕ} (he : e = some t) (u : ℕ) : (e.map (min · u)).getD u ≤ t := by
  simp [he]

section Replace

variable {c now index : ℕ} {b b' : BackendState}

/-- replacing a backend by one whose passive cooldown is an older one grown, or a new one started at `now`
while it was ejected already, keeps both bounds -/
theorem bounds_set (hR : ReadmitBound p) (hC : CooldownsBy c p) (hc : c ≤ now) (hb : p.backends[index]? = some b)
    (hcfg : BackendState.SameConfig b b')
    (hgrow : ∀ u', b'.passiveCooldown = some u' → b.passiveCooldown = some u' ∨
      (b.isHealthy = false ∧ u' = now + b.cooldownNanos)) :
    ReadmitBound { p with backends := p.backends.set index b' } ∧
      CooldownsBy now { p with backends := p.backends.set index b' } := by
  have hmem : b ∈ p.backends := List.mem_of_getElem? hb
  constructor
  · intro d hd u hu
    rcases List.mem_or_eq_of_mem_set hd with hd | rfl
    · exact hR d hd u hu
    · rcases hgrow u hu with hold | ⟨hbh, hnew⟩
      · exact hR b hmem u hold
      · -- a re-ejection: the cooldown it replaces started no later than `c ≤ now`
        obtain ⟨u0, hu0⟩ : ∃ u0, b.passiveCooldown = some u0 := by
          have hcu : b.cooldownUntil ≠ none := fun hn => by
            rw [← BackendState.isHealthy_iff_cooldownUntil, hbh] at hn
            cases hn
          obtain ⟨hact, -⟩ := hcfg.passiveCooldown_eq_some.1 hu
          obtain ⟨u0, hu0⟩ := Option.ne_none_iff_exists'.1 hcu
          exact ⟨u0, by rw [BackendState.passiveCooldown, hact, hu0]; rfl⟩
        obtain ⟨t, ht, htu⟩ := hR b hmem u0 hu0
        have hle := hC b hmem u0 hu0
        exact ⟨t, ht, by omega⟩
  · intro d hd u hu
    rcases List.mem_or_eq_of_mem_set hd with hd | rfl
    · exact (hC d hd u hu).trans (by omega)
    · rw [hcfg.cooldownNanos]
      rcases hgrow u hu with hold | ⟨-, hnew⟩
      · exact (hC b hmem u hold).trans (by omega)
      · exact hnew.le

/-- an ejection at `now` whose cooldown `record_failure` recorded keeps both bounds -/
theorem bounds_record (hR : ReadmitBound p) (hC : CooldownsBy c p) (hc : c ≤ now) (hb : p.backends[index]? = some b)
    (hcfg : BackendState.SameConfig b b') (hnew : ∀ u', b'.passiveCooldown = some u' → u' = now + b.cooldownNanos)
    {q : BackendPool} (hq : q.backends = p.backends.set index b') (hqe : q.earliestReadmit = p.earliestReadmit) :
    ReadmitBound (recordPassiveCooldown b' q) ∧ CooldownsBy now (recordPassiveCooldown b' q) := by
  have hmem : b ∈ p.backends := List.mem_of_getElem? hb
  have hC' : CooldownsBy now q := by
    intro d hd u hu
    rw [hq] at hd
    rcases List.mem_or_eq_of_mem_set hd with hd | rfl
    · exact (hC d hd u hu).trans (by omega)
    · rw [hcfg.cooldownNanos, hnew u hu]
  cases hpc : b'.passiveCooldown with
  | none =>
    rw [recordPassiveCooldown_of_none hpc]
    refine ⟨fun d hd u hu => ?_, hC'⟩
    rw [hq] at hd
    rcases List.mem_or_eq_of_mem_set hd with hd | rfl
    · rw [hqe]
      exact hR d hd u hu
    · rw [hpc] at hu
      cases hu
  | some u' =>
    rw [recordPassiveCooldown_of_some hpc]
    refine ⟨fun d hd u hu => ?_, hC'⟩
    change d ∈ q.backends at hd
    rw [hq] at hd
    rcases List.mem_or_eq_of_mem_set hd with hd | rfl
    · obtain ⟨t, ht, htu⟩ := hR d hd u hu
      rw [← hqe] at ht
      exact ⟨_, rfl, (getD_map_min_le_of_eq ht u').trans htu⟩
    · rw [hpc, Option.some.injEq] at hu
      exact ⟨_, rfl, hu ▸ getD_map_min_le _ u'⟩

end Replace

/-! ## One operation -/

/-- what every reachable pool keeps, for the clock value of the last operation -/
structure PoolInv (debug : Bool) (clock : ℕ) (p : BackendPool) : Prop where
  cache : CacheInv debug p
  bound : ReadmitBound p
  cooldowns : CooldownsBy clock p

theorem PoolInv.mono {debug : Bool} {c c' : ℕ} (h : PoolInv debug c p) (hc : c ≤ c') : PoolInv debug c' p :=
  ⟨h.cache, h.bound, cooldownsBy_mono h.cooldowns hc⟩

section Step

variable {debug : Bool} {c now index : ℕ}

theorem markSuccess_inv (h : PoolInv debug c p) (hc : c ≤ now) (index : ℕ) :
    ∃ p2 tr, p.markSuccess debug now index = some (p2, tr) ∧ PoolInv debug now p2 := by
  unfold markSuccess
  cases hb : p.backends[index]? with
  | none => exact ⟨p, none, rfl, h.mono hc⟩
  | some b =>
    dsimp only
    have hcfg := BackendState.recordSuccess_config now b
    obtain ⟨hR, hC⟩ := bounds_set h.bound h.cooldowns hc hb hcfg fun u' hu' =>
      Or.inl (BackendState.passiveCooldown_recordSuccess hu')
    split
    · rename_i htr
      obtain ⟨p3, hmark, hcache, hback, hearly⟩ := cacheInv_mark h.cache hb hcfg htr
      rw [hmark]
      exact ⟨_, _, rfl, cacheInv_congr hcache rfl rfl rfl, readmitBound_congr hR hback hearly,
        cooldownsBy_congr hC hback⟩
    · rename_i htr
      have hh : (b.recordSuccess now).1.isHealthy = b.isHealthy := Eq.symm (by simpa using htr)
      exact ⟨_, _, rfl, cacheInv_set_same h.cache hb hcfg hh, hR, hC⟩

theorem markFailureWithReason_inv (h : PoolInv debug c p) (hc : c ≤ now) (index : ℕ) (reason : HealthFailureReason) :
    ∃ p2 tr, p.markFailureWithReason debug now index reason = some (p2, tr) ∧ PoolInv debug now p2 := by
  unfold markFailureWithReason
  cases hb : p.backends[index]? with
  | none => exact ⟨p, none, rfl, h.mono hc⟩
  | some b =>
    dsimp only
    have hcfg := BackendState.recordFailure_config now reason b
    split
    · rename_i htr
      obtain ⟨p3, hmark, hcache, hback, hearly⟩ := cacheInv_mark h.cache hb hcfg htr
      cases hb' : (b.recordFailure now reason).1.isHealthy with
      | true =>
        -- the branch the code keeps for a failure that re-admits, which `record_failure` never takes
        rw [hb', if_pos rfl] at hmark
        rw [if_pos rfl, hmark]
        obtain ⟨hR, hC⟩ := bounds_set h.bound h.cooldowns hc hb hcfg fun u' hu' => by
          rw [BackendState.passiveCooldown_of_isHealthy hb'] at hu'
          cases hu'
        exact ⟨_, _, rfl, cacheInv_congr hcache rfl rfl rfl, readmitBound_congr hR hback hearly,
          cooldownsBy_congr hC hback⟩
      | false =>
        -- an ejection: its cooldown starts at `now` and is recorded if no active health check owns the backend
        rw [hb', if_neg (by simp)] at hmark
        rw [if_neg (by simp), hmark]
        have hbh : b.isHealthy = true := by simpa [hb'] using htr
        have hnew : ∀ u', (b.recordFailure now reason).1.passiveCooldown = some u' → u' = now + b.cooldownNanos := by
          intro u' hu'
          rcases BackendState.passiveCooldown_recordFailure hu' with hold | hnew
          · rw [BackendState.passiveCooldown_of_isHealthy hbh] at hold
            cases hold
          · exact hnew
        obtain ⟨hR, hC⟩ := bounds_record h.bound h.cooldowns hc hb hcfg hnew hback hearly
        obtain ⟨hback', hhealthy', hpos'⟩ := recordPassiveCooldown_cache (b.recordFailure now reason).1 p3
        exact ⟨_, _, rfl, cacheInv_congr hcache hback' hhealthy' hpos', hR, hC⟩
    · rename_i htr
      have hh : (b.recordFailure now reason).1.isHealthy = b.isHealthy := Eq.symm (by simpa using htr)
      -- no change of health: an ejected backend failing again, at most restarting its cooldown at `now`
      obtain ⟨hR, hC⟩ := bounds_set h.bound h.cooldowns hc hb hcfg fun u' hu' => by
        rcases BackendState.passiveCooldown_recordFailure hu' with hold | hnew
        · exact Or.inl hold
        · cases hbh : b.isHealthy with
          | false => exact Or.inr ⟨rfl, hnew⟩
          | true =>
            rw [BackendState.passiveCooldown_of_isHealthy (hh.trans hbh)] at hu'
            cases hu'
      exact ⟨_, _, rfl, cacheInv_set_same h.cache hb hcfg hh, hR, hC⟩

end Step

/-! ## The re-admission scan -/

section Reconcile

variable {debug : Bool} {now k : ℕ} {acc : BackendPool × Option ℕ}

/-- after `k` iterations of the loop of `reconcile_readmit_at` over `p`: the first `k` backends have been through
`readmitAt`, and `next` is the least passive cooldown left among them -/
structure ScanInv (debug : Bool) (now : ℕ) (p : BackendPool) (k : ℕ) (acc : BackendPool × Option ℕ) : Prop where
  backends : ∀ i, acc.1.backends[i]? =
    if i < k then p.backends[i]?.map (BackendState.readmitAt now) else p.backends[i]?
  next : acc.2 = (((p.backends.take k).map (BackendState.readmitAt now)).filterMap BackendState.passiveCooldown).min?
  cache : CacheInv debug acc.1

theorem scanInv_zero (h : CacheInv debug p) : ScanInv debug now p 0 (p, none) :=
  ⟨fun i => by simp, by simp, h⟩

/-- the backends after the `k`-th iteration replaced backend `k` by its re-admitted state -/
theorem scanInv_backends_set {b : BackendState} (h : ScanInv debug now p k acc) (hb : p.backends[k]? = some b) (i : ℕ) :
    (acc.1.backends.set k (b.readmitAt now))[i]? =
      if i < k + 1 then p.backends[i]?.map (BackendState.readmitAt now) else p.backends[i]? := by
  have hk : acc.1.backends[k]? = some b := by rw [h.backends k, if_neg (Nat.lt_irrefl k), hb]
  rw [List.getElem?_set]
  by_cases hi : k = i
  · subst hi
    rw [if_pos rfl, if_pos (List.getElem?_eq_some_iff.1 hk).1, if_pos (by omega), hb]
    rfl
  · rw [if_neg hi, h.backends i]
    by_cases hik : i < k
    · rw [if_pos hik, if_pos (by omega)]
    · rw [if_neg hik, if_neg (by omega)]

/-- the passive cooldowns left after one more iteration -/
theorem cooldowns_take_succ (now : ℕ) {b : BackendState} (hb : p.backends[k]? = some b) :
    ((p.backends.take (k + 1)).map (BackendState.readmitAt now)).filterMap BackendState.passiveCooldown =
      ((p.backends.take k).map (BackendState.readmitAt now)).filterMap BackendState.passiveCooldown ++
        (b.readmitAt now).passiveCooldown.toList := by
  rw [List.take_add_one, hb]
  cases hc : (b.readmitAt now).passiveCooldown <;> simp [hc]

theorem scanInv_step (h : ScanInv debug now p k acc) (hk : k < p.backends.length) :
    ∃ acc', readmitStep debug now acc k = some acc' ∧ ScanInv debug now p (k + 1) acc' := by
  obtain ⟨b, hb⟩ : ∃ b, p.backends[k]? = some b := ⟨_, List.getElem?_eq_getElem hk⟩
  have hk' : acc.1.backends[k]? = some b := by rw [h.backends k, if_neg (Nat.lt_irrefl k), hb]
  have hnext := cooldowns_take_succ now hb
  unfold readmitStep
  rw [hk']
  dsimp only
  by_cases hact : b.hasActiveHealthCheck = true
  · -- an active health check owns the backend: the loop skips it
    rw [if_pos hact]
    have hr : b.readmitAt now = b := by simp [BackendState.readmitAt, hact]
    have hset : acc.1.backends.set k (b.readmitAt now) = acc.1.backends := by
      obtain ⟨hlt, hget⟩ := List.getElem?_eq_some_iff.1 hk'
      rw [hr, ← hget]
      exact List.set_getElem_self hlt
    refine ⟨acc, rfl, fun i => ?_, ?_, h.cache⟩
    · rw [← scanInv_backends_set h hb i, hset]
    · rw [hnext, hr, BackendState.passiveCooldown, if_pos hact, Option.toList_none, List.append_nil, ← h.next]
  · rw [if_neg hact]
    have hcfg := BackendState.readmitIfExpired_config now b
    have hr : b.readmitAt now = (b.readmitIfExpired now).1 := by simp [BackendState.readmitAt, hact]
    cases hre : (b.readmitIfExpired now).2
    · -- not due: the backend stays as it is, and its cooldown, if any, is a candidate for `next`
      have hsame : (b.readmitIfExpired now).1 = b := (BackendState.readmitIfExpired_spec now b).2 hre
      have hback := scanInv_backends_set h hb
      rw [hr] at hback
      have hcache := cacheInv_set_same h.cache hk' hcfg (by rw [hsame])
      rw [if_neg (by simp)]
      have hpc : (b.readmitAt now).passiveCooldown = b.cooldownUntil := by
        rw [hr, hsame, BackendState.passiveCooldown, if_neg hact]
      rw [hpc] at hnext
      rw [hsame]
      cases hcu : b.cooldownUntil with
      | none =>
        rw [hcu, Option.toList_none, List.append_nil] at hnext
        exact ⟨_, rfl, hsame ▸ hback, by rw [hnext, ← h.next], hsame ▸ hcache⟩
      | some u =>
        rw [hcu, Option.toList_some] at hnext
        exact ⟨_, rfl, hsame ▸ hback, by rw [hnext, MinFold.min?_concat, ← h.next], hsame ▸ hcache⟩
    · -- due: re-admitted through `mark_healthy`
      obtain ⟨hbh, hrh⟩ := (BackendState.readmitIfExpired_spec now b).1 hre
      obtain ⟨p3, hmark, hcache, hback3, -⟩ := cacheInv_mark h.cache hk' hcfg (by simp [hbh, hrh])
      rw [hrh, if_pos rfl] at hmark
      rw [if_pos rfl, hmark]
      have hpc : (b.readmitAt now).passiveCooldown = none := by
        rw [hr]
        exact BackendState.passiveCooldown_of_isHealthy hrh
      refine ⟨_, rfl, fun i => ?_, ?_, cacheInv_congr hcache rfl rfl rfl⟩
      · change p3.backends[i]? = _
        rw [hback3, ← hr]
        exact scanInv_backends_set h hb i
      · rw [hnext, hpc, Option.toList_none, List.append_nil, ← h.next]

/-- `reconcile_readmit_at` does not panic: it returns the pool as it is while nothing is due yet, and otherwise puts
every backend through `readmitAt` and sets `earliest_readmit` to the least passive cooldown left -/
theorem reconcileReadmitAt_spec (h : CacheInv debug p) (now : ℕ) :
    ∃ p', p.reconcileReadmitAt debug now = some p' ∧ CacheInv debug p' ∧
      ((p' = p ∧ ∀ t, p.earliestReadmit = some t → now < t) ∨
        (p'.backends = p.backends.map (BackendState.readmitAt now) ∧
          p'.earliestReadmit = (passiveCooldowns p').min?)) := by
  unfold reconcileReadmitAt
  cases he : p.earliestReadmit with
  | none => exact ⟨p, rfl, h, Or.inl ⟨rfl, fun t ht => by cases ht⟩⟩
  | some earliest =>
    dsimp only
    split
    · rename_i hlt
      refine ⟨p, rfl, h, Or.inl ⟨rfl, fun t ht => ?_⟩⟩
      rw [Option.some.injEq] at ht
      exact ht ▸ hlt
    · obtain ⟨r, hr, hinv⟩ := Fallible.foldlM_range_exists (P := ScanInv debug now p) (scanInv_zero h)
        fun k acc hk hacc => scanInv_step hacc hk
      rw [hr]
      have hback : r.1.backends = p.backends.map (BackendState.readmitAt now) := by
        apply List.ext_getElem?
        intro i
        rw [hinv.backends i, List.getElem?_map]
        split
        · rfl
        · rename_i hi
          rw [List.getElem?_eq_none (by omega), Option.map_none]
      refine ⟨_, rfl, cacheInv_congr hinv.cache rfl rfl rfl, Or.inr ⟨hback, ?_⟩⟩
      change r.2 = (r.1.backends.filterMap BackendState.passiveCooldown).min?
      rw [hinv.next, hback, List.take_length]

/-- a pool whose `earliest_readmit` is its least passive cooldown meets the bound -/
theorem readmitBound_of_min? (h : p.earliestReadmit = (passiveCooldowns p).min?) : ReadmitBound p := by
  intro b hb u hu
  have hmem : u ∈ passiveCooldowns p := List.mem_filterMap.2 ⟨b, hb, hu⟩
  obtain ⟨t, ht⟩ := Option.isSome_iff_exists.1 (List.isSome_min?_of_mem hmem)
  exact ⟨t, h.trans ht, (List.min?_eq_some_iff.1 ht).2 u hmem⟩

theorem reconcileReadmitAt_inv {c : ℕ} (h : PoolInv debug c p) (hc : c ≤ now) :
    ∃ p', p.reconcileReadmitAt debug now = some p' ∧ PoolInv debug now p' := by
  obtain ⟨p', hrec, hcache, hskip | ⟨hback, hnext⟩⟩ := reconcileReadmitAt_spec h.cache now
  · exact ⟨p', hrec, hskip.1 ▸ h.mono hc⟩
  · refine ⟨p', hrec, hcache, readmitBound_of_min? hnext, fun b hb u hu => ?_⟩
    -- a cooldown the scan leaves was pending before it, with the same configuration
    rw [hback] at hb
    obtain ⟨b0, hb0, rfl⟩ := List.mem_map.1 hb
    rw [BackendState.passiveCooldown_readmitAt] at hu
    obtain ⟨hu0, -⟩ := Option.filter_eq_some_iff.1 hu
    rw [(BackendState.readmitAt_config now b0).cooldownNanos]
    exact (h.cooldowns b0 hb0 u hu0).trans (by omega)

end Reconcile

/-! ## Runs -/

section Run

variable {debug : Bool}

theorem step_inv {c : ℕ} (h : PoolInv debug c p) (op : PoolOp) (hc : c ≤ op.now) :
    ∃ p', step debug p op = some p' ∧ PoolInv debug op.now p' := by
  cases op with
  | markSuccess now index =>
    obtain ⟨p2, tr, hs, hinv⟩ := markSuccess_inv h (show c ≤ now from hc) index
    exact ⟨p2, by rw [step, hs]; rfl, hinv⟩
  | markFailure now index =>
    obtain ⟨p2, tr, hs, hinv⟩ := markFailureWithReason_inv h (show c ≤ now from hc) index .httpStatus5xx
    exact ⟨p2, by rw [step, markFailure, hs]; rfl, hinv⟩
  | markFailureWithReason now index reason =>
    obtain ⟨p2, tr, hs, hinv⟩ := markFailureWithReason_inv h (show c ≤ now from hc) index reason
    exact ⟨p2, by rw [step, hs]; rfl, hinv⟩
  | markRequestFailure now index reason =>
    rw [step, markRequestFailure]
    split
    · exact ⟨p, rfl, h.mono hc⟩
    · obtain ⟨p2, tr, hs, hinv⟩ := markFailureWithReason_inv h (show c ≤ now from hc) index reason
      exact ⟨p2, by rw [hs]; rfl, hinv⟩
  | reconcileReadmitAt now => exact reconcileReadmitAt_inv h hc

/-- a run whose clock values do not go back from `c` does not panic, and keeps the invariant -/
theorem run_inv (ops : List PoolOp) {c : ℕ} (h : PoolInv debug c p) (hc : ∀ op ∈ ops, c ≤ op.now)
    (hord : (ops.map PoolOp.now).Pairwise (· ≤ ·)) : ∃ p' c', run debug p ops = some p' ∧ PoolInv debug c' p' := by
  induction ops generalizing p c with
  | nil => exact ⟨p, c, rfl, h⟩
  | cons op ops ih =>
    rw [List.map_cons, List.pairwise_cons] at hord
    obtain ⟨p1, hs, h1⟩ := step_inv h op (hc op List.mem_cons_self)
    obtain ⟨p', c', hrun, h'⟩ := ih h1 (fun op' hop' => hord.1 _ (List.mem_map_of_mem hop')) hord.2
    refine ⟨p', c', ?_, h'⟩
    rw [run, List.foldlM_cons, hs]
    exact hrun

theorem run_append {ops ops' : List PoolOp} {p₁ : BackendPool} (h : run debug p ops = some p₁) :
    run debug p (ops ++ ops') = run debug p₁ ops' := by
  rw [run, List.foldlM_append]
  exact congrArg (· >>= fun q => ops'.foldlM (step debug) q) h

end Run

/-! ## What a call keeps of each backend -/

section Configs

variable {debug : Bool} {now index : ℕ} {p' : BackendPool}

theorem markHealthy_backends {r : BackendPool × Bool} (h : p.markHealthy index = some r) :
    r.1.backends = p.backends := by
  unfold markHealthy at h
  split at h
  · cases h
    rfl
  · split at h <;> cases h <;> rfl

theorem markUnhealthy_backends {r : BackendPool × Bool} (h : p.markUnhealthy index = some r) :
    r.1.backends = p.backends := by
  unfold markUnhealthy at h
  split at h
  · cases h
    rfl
  · split at h
    · cases h
    · cases h
      rfl
    · split at h
      · cases h
      · -- the pool after `swap_remove` and the relink: only the cache changes
        obtain ⟨pos, -, rfl⟩ := Option.map_eq_some_iff.1 h
        rfl

theorem debugAssert_backends {e : BackendPool → Option (BackendPool × Bool)}
    (he : ∀ q r, e q = some r → r.1.backends = q.backends) {q q' : BackendPool} (h : debugAssert debug e q = some q') :
    q'.backends = q.backends := by
  unfold debugAssert at h
  split at h
  · split at h
    · cases h
      exact he _ _ ‹_›
    · cases h
  · cases h
    rfl

/-- the `debug_assert!` that follows a change of health keeps the backends -/
theorem mark_backends {healthy : Bool} {q q' : BackendPool}
    (h : (if healthy then debugAssert debug (markHealthy index) q else debugAssert debug (markUnhealthy index) q) =
      some q') : q'.backends = q.backends := by
  split at h
  · exact debugAssert_backends (fun _ _ => markHealthy_backends) h
  · exact debugAssert_backends (fun _ _ => markUnhealthy_backends) h

theorem map_config_set {l : List BackendState} {b b' : BackendState} (hb : l[index]? = some b)
    (hcfg : BackendState.SameConfig b b') : (l.set index b').map BackendState.config = l.map BackendState.config := by
  apply List.ext_getElem?
  intro i
  rw [List.getElem?_map, List.getElem?_map, List.getElem?_set]
  split
  · rename_i hi
    subst hi
    rw [if_pos (List.getElem?_eq_some_iff.1 hb).1, hb, Option.map_some, Option.map_some, hcfg.config_eq]
  · rfl

theorem markSuccess_configs {r : BackendPool × Option HealthTransition} (h : p.markSuccess debug now index = some r) :
    r.1.backends.map BackendState.config = p.backends.map BackendState.config := by
  unfold markSuccess at h
  cases hb : p.backends[index]? with
  | none =>
    rw [hb] at h
    cases h
    rfl
  | some b =>
    rw [hb] at h
    dsimp only at h
    have hset := map_config_set hb (BackendState.recordSuccess_config now b)
    split at h
    · obtain ⟨q, hq, rfl⟩ := Option.map_eq_some_iff.1 h
      rw [show (bumpEpoch q).backends = q.backends from rfl, mark_backends hq]
      exact hset
    · cases h
      exact hset

theorem markFailureWithReason_configs {reason : HealthFailureReason} {r : BackendPool × Option HealthTransition}
    (h : p.markFailureWithReason debug now index reason = some r) :
    r.1.backends.map BackendState.config = p.backends.map BackendState.config := by
  unfold markFailureWithReason at h
  cases hb : p.backends[index]? with
  | none =>
    rw [hb] at h
    cases h
    rfl
  | some b =>
    rw [hb] at h
    dsimp only at h
    have hset := map_config_set hb (BackendState.recordFailure_config now reason b)
    split at h
    · obtain ⟨q, hq, rfl⟩ := Option.map_eq_some_iff.1 h
      rw [show (bumpEpoch q).backends = q.backends from rfl]
      split at hq
      · rw [debugAssert_backends (fun _ _ => markHealthy_backends) hq]
        exact hset
      · -- an ejection also records the cooldown, which touches only `earliest_readmit`
        obtain ⟨q', hq', rfl⟩ := Option.map_eq_some_iff.1 hq
        rw [(recordPassiveCooldown_cache _ q').1, debugAssert_backends (fun _ _ => markUnhealthy_backends) hq']
        exact hset
    · cases h
      exact hset

theorem markRequestFailure_configs {reason : HealthFailureReason} {r : BackendPool × Option HealthTransition}
    (h : p.markRequestFailure debug now index reason = some r) :
    r.1.backends.map BackendState.config = p.backends.map BackendState.config := by
  unfold markRequestFailure at h
  split at h
  · cases h
    rfl
  · exact markFailureWithReason_configs h

theorem readmitStep_configs {acc acc' : BackendPool × Option ℕ} (h : readmitStep debug now acc index = some acc') :
    acc'.1.backends.map BackendState.config = acc.1.backends.map BackendState.config := by
  unfold readmitStep at h
  cases hb : acc.1.backends[index]? with
  | none =>
    rw [hb] at h
    cases h
  | some b =>
    rw [hb] at h
    dsimp only at h
    have hset := map_config_set hb (BackendState.readmitIfExpired_config now b)
    split at h
    · cases h
      rfl
    · split at h
      · obtain ⟨q, hq, rfl⟩ := Option.map_eq_some_iff.1 h
        rw [show (bumpEpoch q, acc.2).1.backends = q.backends from rfl,
          debugAssert_backends (fun _ _ => markHealthy_backends) hq]
        exact hset
      · split at h <;>
        · cases h
          exact hset

theorem reconcileReadmitAt_configs (h : p.reconcileReadmitAt debug now = some p') :
    p'.backends.map BackendState.config = p.backends.map BackendState.config := by
  unfold reconcileReadmitAt at h
  split at h
  · cases h
    rfl
  · split at h
    · cases h
      rfl
    · -- every iteration of the scan keeps the configurations
      obtain ⟨r, hr, rfl⟩ := Option.map_eq_some_iff.1 h
      exact Fallible.foldlM_option_induction (P := fun acc => acc.1.backends.map BackendState.config =
        p.backends.map BackendState.config) rfl (fun _ _ _ hacc hs => (readmitStep_configs hs).trans hacc) hr

theorem step_configs {op : PoolOp} (h : step debug p op = some p') :
    p'.backends.map BackendState.config = p.backends.map BackendState.config := by
  cases op with
  | markSuccess now index =>
    obtain ⟨r, hr, rfl⟩ := Option.map_eq_some_iff.1 h
    exact markSuccess_configs hr
  | markFailure now index =>
    obtain ⟨r, hr, rfl⟩ := Option.map_eq_some_iff.1 h
    exact markFailureWithReason_configs hr
  | markFailureWithReason now index reason =>
    obtain ⟨r, hr, rfl⟩ := Option.map_eq_some_iff.1 h
    exact markFailureWithReason_configs hr
  | markRequestFailure now index reason =>
    obtain ⟨r, hr, rfl⟩ := Option.map_eq_some_iff.1 h
    exact markRequestFailure_configs hr
  | reconcileReadmitAt now => exact reconcileReadmitAt_configs h

/-- no run changes a backend's address, weight or health-check configuration, nor the number of backends -/
theorem run_configs {ops : List PoolOp} (h : run debug p ops = some p') :
    p'.backends.map BackendState.config = p.backends.map BackendState.config :=
  Fallible.foldlM_option_induction (P := fun q => q.backends.map BackendState.config =
    p.backends.map BackendState.config) rfl (fun _ _ _ hq hs => (step_configs hs).trans hq) h

end Configs

/-! ## The pool as `new_from_states` builds it -/

theorem getElem?_cons_sub {b : BackendState} {rest : List BackendState} {i k : ℕ} (h : k < i) :
    (b :: rest)[i - k]? = rest[i - (k + 1)]? := by
  rw [List.getElem?_cons, if_neg (by omega), show i - k - 1 = i - (k + 1) by omega]

/-- the loop of `new_from_states` from index `k` on: it keeps the cache inverse and adds the healthy indices -/
theorem collectHealthy_spec {n : ℕ} (rest : List BackendState) (k : ℕ) (healthy : List ℕ) (pos : List (Option ℕ))
    (hinv : IndexCache.Inverse healthy pos n) (hlt : ∀ i ∈ healthy, i < k) (hlen : k + rest.length ≤ n) :
    IndexCache.Inverse (collectHealthy (rest.zipIdx k) (healthy, pos)).1
        (collectHealthy (rest.zipIdx k) (healthy, pos)).2 n ∧
      ∀ i, i ∈ (collectHealthy (rest.zipIdx k) (healthy, pos)).1 ↔
        i ∈ healthy ∨ ∃ b, rest[i - k]? = some b ∧ k ≤ i ∧ b.isHealthy = true := by
  induction rest generalizing k healthy pos with
  | nil =>
    refine ⟨hinv, fun i => ?_⟩
    simp [collectHealthy]
  | cons b rest ih =>
    have hk : k < n := by simp at hlen; omega
    have hnk : k ∉ healthy := fun hk' => Nat.lt_irrefl k (hlt k hk')
    rw [List.zipIdx_cons, collectHealthy]
    split
    · rename_i hb
      obtain ⟨hinv', hmem⟩ := ih (k + 1) (healthy ++ [k]) _ (hinv.push hk hnk)
        (fun i hi => by
          rcases List.mem_append.1 hi with hi | hi
          · have := hlt i hi
            omega
          · rw [List.mem_singleton.1 hi]
            omega)
        (by simp at hlen; omega)
      refine ⟨hinv', fun i => ?_⟩
      rw [hmem i, List.mem_append, List.mem_singleton]
      constructor
      · rintro ((hi | rfl) | ⟨b', hb', hki, hh⟩)
        · exact Or.inl hi
        · exact Or.inr ⟨b, by simp, le_rfl, hb⟩
        · exact Or.inr ⟨b', by rw [getElem?_cons_sub (by omega)]; exact hb', by omega, hh⟩
      · rintro (hi | ⟨b', hb', hki, hh⟩)
        · exact Or.inl (Or.inl hi)
        · by_cases hik : i = k
          · exact Or.inl (Or.inr hik)
          · rw [getElem?_cons_sub (by omega)] at hb'
            exact Or.inr ⟨b', hb', by omega, hh⟩
    · rename_i hb
      obtain ⟨hinv', hmem⟩ := ih (k + 1) healthy pos hinv (fun i hi => by have := hlt i hi; omega)
        (by simp at hlen; omega)
      refine ⟨hinv', fun i => ?_⟩
      rw [hmem i]
      constructor
      · rintro (hi | ⟨b', hb', hki, hh⟩)
        · exact Or.inl hi
        · exact Or.inr ⟨b', by rw [getElem?_cons_sub (by omega)]; exact hb', by omega, hh⟩
      · rintro (hi | ⟨b', hb', hki, hh⟩)
        · exact Or.inl hi
        · by_cases hik : i = k
          · -- the backend at `k` is not healthy
            subst hik
            simp only [Nat.sub_self, List.getElem?_cons_zero, Option.some.injEq] at hb'
            subst hb'
            exact absurd hh hb
          · rw [getElem?_cons_sub (by omega)] at hb'
            exact Or.inr ⟨b', hb', by omega, hh⟩

theorem membershipInv_newFromStates (bs : List BackendState) : MembershipInv (newFromStates bs) := by
  have hinv0 : IndexCache.Inverse [] (List.replicate bs.length none) bs.length :=
    ⟨fun i hi => (by cases hi), by simp, fun i q => by simp [List.getElem?_replicate]⟩
  obtain ⟨hinv, hmem⟩ := collectHealthy_spec bs 0 [] _ hinv0 (fun i hi => by cases hi) (by simp)
  refine MembershipInv.of_inverse hinv fun i => ?_
  change i ∈ (collectHealthy bs.zipIdx ([], List.replicate bs.length none)).1 ↔ HealthyIndex ⟨bs, _, _, 0, none⟩ i
  rw [hmem i]
  simp [HealthyIndex]

/-- a pool built from states where no passive backend is ejected meets the invariant in either profile -/
theorem poolInv_newFromStates (debug : Bool) {bs : List BackendState}
    (hfresh : ∀ b ∈ bs, b.hasActiveHealthCheck = false → b.isHealthy = true) : PoolInv debug 0 (newFromStates bs) := by
  have hnone : ∀ b ∈ bs, b.passiveCooldown = none := by
    intro b hb
    cases hact : b.hasActiveHealthCheck with
    | true => simp [BackendState.passiveCooldown, hact]
    | false => exact BackendState.passiveCooldown_of_isHealthy (hfresh b hb hact)
  refine ⟨?_, fun b hb u hu => ?_, fun b hb u hu => ?_⟩
  · cases debug with
    | true => exact membershipInv_newFromStates bs
    | false =>
      intro i b hb hact
      have hmem : b ∈ bs := List.mem_of_getElem? hb
      exact ((membershipInv_newFromStates bs).mem_iff i).2 ⟨b, hb, hfresh b hmem hact⟩
  · rw [hnone b hb] at hu
    cases hu
  · rw [hnone b hb] at hu
    cases hu

/-- with debug assertions every run from such a pool keeps the membership invariant -/
theorem run_membershipInv {bs : List BackendState} (hfresh : ∀ b ∈ bs, b.hasActiveHealthCheck = false → b.isHealthy = true)
    {ops : List PoolOp} (hord : (ops.map PoolOp.now).Pairwise (· ≤ ·)) {p : BackendPool}
    (hrun : run true (newFromStates bs) ops = some p) : MembershipInv p := by
  obtain ⟨p1, c, hrun1, hinv⟩ := run_inv ops (poolInv_newFromStates true hfresh) (fun _ _ => Nat.zero_le _) hord
  rw [hrun1, Option.some.injEq] at hrun
  subst hrun
  exact hinv.cache

/-! ## No passive backend is stranded -/

/-- from a pool built with no passive backend ejected, through any run of the pool's operations with clock values
that do not go back: `earliest_readmit` bounds every pending passive cooldown; and for every `now`,
`reconcile_readmit_at` returns, re-admits every passive backend whose cooldown has ended (healthy, and listed in
`healthy`), sets `earliest_readmit` to the least cooldown left whenever the scan runs (nothing pending, or something
due), and keeps the bound -/
theorem passive_cooldowns_readmitted (debug : Bool) {bs : List BackendState}
    (hfresh : ∀ b ∈ bs, b.hasActiveHealthCheck = false → b.isHealthy = true) {ops : List PoolOp}
    (hord : (ops.map PoolOp.now).Pairwise (· ≤ ·)) {p : BackendPool} (hrun : run debug (newFromStates bs) ops = some p) :
    (∀ b ∈ p.backends, b.hasActiveHealthCheck = false → ∀ u, b.cooldownUntil = some u →
      ∃ t, p.earliestReadmit = some t ∧ t ≤ u) ∧
    ∀ now, ∃ p', p.reconcileReadmitAt debug now = some p' ∧
      (∀ i b u, p.backends[i]? = some b → b.hasActiveHealthCheck = false → b.cooldownUntil = some u → u ≤ now →
        HealthyIndex p' i ∧ i ∈ p'.healthy) ∧
      ((∀ t, p.earliestReadmit = some t → t ≤ now) → p'.earliestReadmit = (passiveCooldowns p').min?) ∧
      (∀ b ∈ p'.backends, b.hasActiveHealthCheck = false → ∀ u, b.cooldownUntil = some u →
        ∃ t, p'.earliestReadmit = some t ∧ t ≤ u) := by
  obtain ⟨p1, c, hrun1, hinv⟩ := run_inv ops (poolInv_newFromStates debug hfresh) (fun _ _ => Nat.zero_le _) hord
  rw [hrun1, Option.some.injEq] at hrun
  subst hrun
  have hbound : ∀ q, ReadmitBound q → ∀ b ∈ q.backends, b.hasActiveHealthCheck = false → ∀ u,
      b.cooldownUntil = some u → ∃ t, q.earliestReadmit = some t ∧ t ≤ u := by
    intro q hq b hb hact u hu
    exact hq b hb u (by rw [BackendState.passiveCooldown_of_passive hact, hu])
  refine ⟨hbound p1 hinv.bound, fun now => ?_⟩
  obtain ⟨p', hrec, hcache, ⟨rfl, hlt⟩ | ⟨hback, hnext⟩⟩ := reconcileReadmitAt_spec hinv.cache now
  · -- nothing was due, so no passive cooldown has ended yet
    refine ⟨p', hrec, fun i b u hb hact hu hle => ?_, fun hle => ?_, hbound p' hinv.bound⟩
    · obtain ⟨t, ht, htu⟩ := hbound p' hinv.bound b (List.mem_of_getElem? hb) hact u hu
      exact absurd (hlt t ht) (by omega)
    · cases he : p'.earliestReadmit with
      | some t => exact absurd (hlt t he) (Nat.not_lt.2 (hle t he))
      | none =>
        -- with no bound recorded there is no pending passive cooldown
        refine (List.min?_eq_none_iff.2 (List.eq_nil_iff_forall_not_mem.2 fun u hu => ?_)).symm
        obtain ⟨b, hb, hbu⟩ := List.mem_filterMap.1 hu
        obtain ⟨t, ht, -⟩ := hinv.bound b hb u hbu
        rw [he] at ht
        cases ht
  · refine ⟨p', hrec, fun i b u hb hact hu hle => ?_, fun _ => hnext, hbound p' (readmitBound_of_min? hnext)⟩
    have hb' : p'.backends[i]? = some (b.readmitAt now) := by rw [hback, List.getElem?_map, hb]; rfl
    have hidx : HealthyIndex p' i := ⟨_, hb', BackendState.isHealthy_readmitAt hact hu hle⟩
    refine ⟨hidx, ?_⟩
    cases debug with
    | true => exact (show MembershipInv p' from hcache).mem_iff i |>.2 hidx
    | false => exact hcache i _ hb' (by rw [(BackendState.readmitAt_config now b).hasActiveHealthCheck]; exact hact)

/-- three failures at time zero eject the lone passive backend; three more at time one eject it again, for a cooldown
that ends one tick later -/
def reejection : List PoolOp :=
  [.markFailure 0 0, .markFailure 0 0, .markFailure 0 0, .markFailure 1 0, .markFailure 1 0, .markFailure 1 0]

/-- the re-ejection leaves `earliest_readmit` at the first cooldown's end; a reconcile before it skips the scan, so
`earliest_readmit` stays below the one cooldown left, in either profile -/
theorem reejection_keeps_stale_readmit :
    ((run true loneBackend reejection).bind fun p => p.reconcileReadmitAt true 2).map
        (fun p' => (p'.earliestReadmit, (passiveCooldowns p').min?)) = some (some 10000000000, some 10000000001) ∧
      ((run false loneBackend reejection).bind fun p => p.reconcileReadmitAt false 2).map
        (fun p' => (p'.earliestReadmit, (passiveCooldowns p').min?)) = some (some 10000000000, some 10000000001) := by
  constructor <;> decide

end BackendPool

end Spooky.Lb
