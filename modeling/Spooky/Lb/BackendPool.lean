/-
The backend pool and its healthy-membership cache (`crates/lb/src/backend_pool.rs`).

`healthy` lists the indices of healthy backends and `healthy_pos` is its inverse; `mark_healthy` pushes an index and
`mark_unhealthy` removes one with `swap_remove`, relinking the element moved into the hole. Both are only ever called
as the argument of `debug_assert!`, so what the pool does depends on the build profile: `debug = true` models a build
with debug assertions (the test profile), `debug = false` the release profile, where the argument is not evaluated
and the cache is never updated after `new_from_states`. Every mutation that changes a backend's health bumps
`membership_epoch` (a wrapping `u64`).

A panic (an index past the end, a failed debug assertion) is `none`.

Results:
- `release_cache_keeps_ejected_backend`: in the release profile, three failures eject the only backend while
  `healthy` still lists it, so the membership invariant `MembershipInv` is broken.
- `debug_cache_drops_ejected_backend`: the same run with debug assertions empties `healthy`.
-/
import Spooky.Lb.Backend

namespace Spooky.Lb

/-- `debug_assert!(e)` over a mutating `e`: with debug assertions `e` runs and a false result panics; in the release
profile the argument is not evaluated at all -/
def debugAssert {σ : Type} (debug : Bool) (e : σ → Option (σ × Bool)) (s : σ) : Option σ :=
  if debug then
    match e s with
    | some (s', true) => some s'
    | _ => none
  else some s

/-- `Vec::swap_remove` at an index inside the vector: the last element takes the place of the removed one -/
def swapRemove (l : List ℕ) (pos : ℕ) : List ℕ := (l.set pos (l.getLastD 0)).dropLast

structure BackendPool where
  backends : List BackendState
  healthy : List ℕ
  healthyPos : List (Option ℕ)
  membershipEpoch : UInt64
  earliestReadmit : Option ℕ
deriving DecidableEq, Repr

namespace BackendPool

/-- the loop of `new_from_states` over the enumerated backends, accumulating `healthy` and `healthy_pos` -/
def collectHealthy : List (BackendState × ℕ) → List ℕ × List (Option ℕ) → List ℕ × List (Option ℕ)
  | [], acc => acc
  | (b, idx) :: rest, (healthy, healthyPos) =>
    if b.isHealthy then collectHealthy rest (healthy ++ [idx], healthyPos.set idx (some healthy.length))
    else collectHealthy rest (healthy, healthyPos)

def newFromStates (backends : List BackendState) : BackendPool :=
  let cache := collectHealthy backends.zipIdx ([], List.replicate backends.length none)
  ⟨backends, cache.1, cache.2, 0, none⟩

/-- `mark_healthy`: the pool after the call and the returned flag -/
def markHealthy (index : ℕ) (p : BackendPool) : Option (BackendPool × Bool) :=
  if p.backends.length ≤ index then some (p, false)
  else
    match p.healthyPos[index]? with
    | none => none
    | some (some _) => some (p, false)
    | some none =>
      some ({ p with healthy := p.healthy ++ [index], healthyPos := p.healthyPos.set index (some p.healthy.length) },
        true)

/-- `mark_unhealthy`: the pool after the call and the returned flag -/
def markUnhealthy (index : ℕ) (p : BackendPool) : Option (BackendPool × Bool) :=
  if p.backends.length ≤ index then some (p, false)
  else
    match p.healthyPos[index]? with
    | none => none
    | some none => some (p, false)
    | some (some pos) =>
      -- `swap_remove` panics past the end, and `debug_assert_eq!(removed, index)` panics on a stale position (it is
      -- evaluated: `mark_unhealthy` itself only runs under debug assertions)
      if p.healthy[pos]? ≠ some index then none
      else
        let healthy := swapRemove p.healthy pos
        let relinked : Option (List (Option ℕ)) :=
          match healthy[pos]? with
          | some moved => if moved < p.healthyPos.length then some (p.healthyPos.set moved (some pos)) else none
          | none => some p.healthyPos
        relinked.map fun healthyPos => ({ p with healthy := healthy, healthyPos := healthyPos.set index none }, true)

/-- the epoch bump that follows every change of a backend's health -/
def bumpEpoch (p : BackendPool) : BackendPool := { p with membershipEpoch := p.membershipEpoch + 1 }

/-- `mark_success` at clock value `now` -/
def markSuccess (debug : Bool) (now index : ℕ) (p : BackendPool) : Option (BackendPool × Option HealthTransition) :=
  match p.backends[index]? with
  | none => some (p, none)
  | some b =>
    let r := b.recordSuccess now
    let p := { p with backends := p.backends.set index r.1 }
    if b.isHealthy != r.1.isHealthy then
      let marked :=
        if r.1.isHealthy then debugAssert debug (markHealthy index) p else debugAssert debug (markUnhealthy index) p
      marked.map fun p => (bumpEpoch p, r.2)
    else some (p, r.2)

/-- the cooldown bookkeeping of a passive ejection: the earliest pending re-admission -/
def recordPassiveCooldown (b : BackendState) (p : BackendPool) : BackendPool :=
  match b.hasActiveHealthCheck, b.cooldownUntil with
  | false, some untilAt => { p with earliestReadmit := some ((p.earliestReadmit.map (min · untilAt)).getD untilAt) }
  | _, _ => p

/-- `mark_failure_with_reason` at clock value `now` -/
def markFailureWithReason (debug : Bool) (now index : ℕ) (reason : HealthFailureReason) (p : BackendPool) :
    Option (BackendPool × Option HealthTransition) :=
  match p.backends[index]? with
  | none => some (p, none)
  | some b =>
    let r := b.recordFailure now reason
    let p := { p with backends := p.backends.set index r.1 }
    if b.isHealthy != r.1.isHealthy then
      let marked :=
        if r.1.isHealthy then debugAssert debug (markHealthy index) p
        else (debugAssert debug (markUnhealthy index) p).map (recordPassiveCooldown r.1)
      marked.map fun p => (bumpEpoch p, r.2)
    else some (p, r.2)

/-- `mark_failure`: an active health-check failure -/
def markFailure (debug : Bool) (now index : ℕ) (p : BackendPool) : Option (BackendPool × Option HealthTransition) :=
  markFailureWithReason debug now index .httpStatus5xx p

/-- `mark_request_failure`: skipped while an active health-check loop owns the backend -/
def markRequestFailure (debug : Bool) (now index : ℕ) (reason : HealthFailureReason) (p : BackendPool) :
    Option (BackendPool × Option HealthTransition) :=
  if p.backends[index]?.map BackendState.hasActiveHealthCheck = some true then some (p, none)
  else markFailureWithReason debug now index reason p

/-- one iteration of the loop of `reconcile_readmit_at`: the pool and the next pending expiry -/
def readmitStep (debug : Bool) (now : ℕ) (acc : BackendPool × Option ℕ) (index : ℕ) :
    Option (BackendPool × Option ℕ) :=
  match acc.1.backends[index]? with
  | none => none
  | some b =>
    if b.hasActiveHealthCheck then some acc
    else
      let r := b.readmitIfExpired now
      let p := { acc.1 with backends := acc.1.backends.set index r.1 }
      if r.2 then (debugAssert debug (markHealthy index) p).map fun p => (bumpEpoch p, acc.2)
      else
        match r.1.cooldownUntil with
        | some untilAt => some (p, some ((acc.2.map (min · untilAt)).getD untilAt))
        | none => some (p, acc.2)

def reconcileReadmitAt (debug : Bool) (now : ℕ) (p : BackendPool) : Option BackendPool :=
  match p.earliestReadmit with
  | none => some p
  | some earliest =>
    if now < earliest then some p
    else
      ((List.range p.backends.length).foldlM (readmitStep debug now) (p, none)).map
        fun r => { r.1 with earliestReadmit := r.2 }

end BackendPool

/-- the mutating entry points of the pool, each with its clock value -/
inductive PoolOp where
  | markSuccess (now index : ℕ)
  | markFailure (now index : ℕ)
  | markFailureWithReason (now index : ℕ) (reason : HealthFailureReason)
  | markRequestFailure (now index : ℕ) (reason : HealthFailureReason)
  | reconcileReadmitAt (now : ℕ)
deriving DecidableEq, Repr

namespace BackendPool

def step (debug : Bool) (p : BackendPool) : PoolOp → Option BackendPool
  | .markSuccess now index => (p.markSuccess debug now index).map Prod.fst
  | .markFailure now index => (p.markFailure debug now index).map Prod.fst
  | .markFailureWithReason now index reason => (p.markFailureWithReason debug now index reason).map Prod.fst
  | .markRequestFailure now index reason => (p.markRequestFailure debug now index reason).map Prod.fst
  | .reconcileReadmitAt now => p.reconcileReadmitAt debug now

def run (debug : Bool) (p : BackendPool) (ops : List PoolOp) : Option BackendPool := ops.foldlM (step debug) p

/-- `is_healthy_index`: answered from the membership cache -/
def isHealthyIndex (p : BackendPool) (index : ℕ) : Bool := (p.healthyPos[index]?).join.isSome

/-- the backends that are healthy, by index -/
def HealthyIndex (p : BackendPool) (i : ℕ) : Prop := ∃ b, p.backends[i]? = some b ∧ b.isHealthy = true

/-- the membership cache agrees with the backends' health: no duplicates, in range, exactly the healthy indices,
and `healthy_pos` is the inverse of `healthy` -/
structure MembershipInv (p : BackendPool) : Prop where
  nodup : p.healthy.Nodup
  lt_length : ∀ i ∈ p.healthy, i < p.backends.length
  mem_iff : ∀ i : ℕ, i ∈ p.healthy ↔ HealthyIndex p i
  pos_length : p.healthyPos.length = p.backends.length
  pos_iff : ∀ i q : ℕ, p.healthyPos[i]? = some (some q) ↔ p.healthy[q]? = some i

/-! ## The release profile leaves the cache stale -/

/-- one backend with no configured health check: three failures eject it -/
def loneBackend : BackendPool := newFromStates [BackendState.new ⟨"10.0.0.1:1", 1, none⟩]

def threeFailures : List PoolOp := [.markFailure 0 0, .markFailure 0 0, .markFailure 0 0]

theorem release_cache_keeps_ejected_backend :
    ∃ p, run false loneBackend threeFailures = some p ∧ p.healthy = [0] ∧ ¬ HealthyIndex p 0 ∧
      ¬ MembershipInv p := by
  have hrun : (run false loneBackend threeFailures).map
      (fun p => (p.healthy, p.backends[0]?.map BackendState.isHealthy)) = some ([0], some false) := by
    decide
  cases hp : run false loneBackend threeFailures with
  | none => simp [hp] at hrun
  | some p =>
    simp only [hp, Option.map_some, Option.some.injEq, Prod.mk.injEq] at hrun
    obtain ⟨hhealthy, hb⟩ := hrun
    have hnot : ¬ HealthyIndex p 0 := by
      rintro ⟨b, hb', hh⟩
      simp [hb', hh] at hb
    exact ⟨p, rfl, hhealthy, hnot, fun h => hnot ((h.mem_iff 0).1 (by simp [hhealthy]))⟩

theorem debug_cache_drops_ejected_backend :
    (run true loneBackend threeFailures).map BackendPool.healthy = some [] := by
  decide

end BackendPool

end Spooky.Lb
