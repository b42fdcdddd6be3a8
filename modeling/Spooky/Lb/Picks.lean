/-
The read-only picks of the load-balancing strategies (`crates/lb/src/algorithms/*.rs`, `crates/lb/src/load_balancing.rs`).

Least-connections keeps the healthy index with the fewest active requests, the lower index on a tie; latency-aware
keeps, among the healthy backends with no latency sample, the one with the fewest active requests, and otherwise the
one with the least score `ewma + 10 * active`, ties broken by active requests and then by index. Each loop keeps a
running best that only a strictly better candidate replaces, and its comparison is the lexicographic order of a key
(`LeastConnections.step_toLex`, `LatencyAware.sampledStep_toLex`), so the loop computes `List.min?` of the keys and
does not depend on the order of `healthy` (`least_loaded_picks`).

The counters `active_requests` and `ewma_latency_ms` of each backend live in `BackendLoad`, one per backend beside the
pool. The latency is an `f64` in the code; the picks only add, multiply and compare it, and with no NaN among the
values `finish_request` produces the comparisons form a linear order, so the latency here is any linearly ordered
type `F` with the arithmetic the score uses. The random strategy's draw from its thread-local generator is an input.
A request writes the counters through `begin_request` and `finish_request` (`crates/lb/src/backend_pool.rs`), the one
place where the latency is averaged; only their counts of active requests are reasoned about. `finish_request`
saturates at zero as the subtraction of natural numbers does; `begin_request`'s `fetch_add` wraps at `usize::MAX`
(`beginRequestUsize`) and is the natural successor below it (`beginRequestUsize_eq`).
-/
import Spooky.Lb.ConsistentHash
import Spooky.Lib.Ordered
import Spooky.Lib.Fallible

namespace Spooky.Lb

/-- the load counters of a backend that the picks read -/
structure BackendLoad (F : Type) where
  activeRequests : ℕ
  ewmaLatencyMs : Option F
deriving DecidableEq, Repr

/-- a backend pool with the load counters of its backends, one for each -/
structure LoadedPool (F : Type) where
  pool : BackendPool
  load : List (BackendLoad F)
  load_length : load.length = pool.backends.length

variable {F : Type}

/-! ## The writes of a request -/

section Writes

/-- `begin_request`: the backend at `index`, if there is one, counts one more active request -/
def beginRequest (index : ℕ) (load : List (BackendLoad F)) : List (BackendLoad F) :=
  load.modify index fun b => { b with activeRequests := b.activeRequests + 1 }

@[simp] theorem length_beginRequest (index : ℕ) (load : List (BackendLoad F)) :
    (beginRequest index load).length = load.length :=
  List.length_modify _ _ _

/-- `begin_request` adds one to the counter of `index` and leaves every other backend's as it was -/
theorem activeRequests_beginRequest (index j : ℕ) (load : List (BackendLoad F)) :
    (beginRequest index load)[j]?.map BackendLoad.activeRequests =
      load[j]?.map fun b => b.activeRequests + if index = j then 1 else 0 := by
  rw [beginRequest, List.getElem?_modify]
  cases load[j]? with
  | none => rfl
  | some b => by_cases hj : index = j <;> simp [hj]

/-- `begin_request` at the source's width: the `fetch_add(1)` on the `AtomicUsize` wraps -/
def beginRequestUsize (index : ℕ) (load : List (BackendLoad F)) : List (BackendLoad F) :=
  load.modify index fun b => { b with activeRequests := Counters.wrappingSucc Counters.usizeMax b.activeRequests }

/-- below `usize::MAX` active requests on the backend, the counter does not wrap -/
theorem beginRequestUsize_eq {index : ℕ} {load : List (BackendLoad F)}
    (h : ∀ b ∈ load[index]?, b.activeRequests < Counters.usizeMax) :
    beginRequestUsize index load = beginRequest index load := by
  apply List.ext_getElem?
  intro j
  rw [beginRequestUsize, beginRequest, List.getElem?_modify, List.getElem?_modify]
  by_cases hj : index = j
  · subst hj
    cases hb : load[index]? with
    | none => rfl
    | some b => simp [Counters.wrappingSucc_of_lt (h b hb)]
  · simp [hj]

variable [Add F] [Mul F] [Sub F] [OfScientific F]

/-- the moving average of `finish_request`: the first sample as it is, then each new one with weight `0.2` -/
def ewmaUpdate (observedMs : F) (previous : Option F) : F :=
  let alpha : F := 0.2
  match previous with
  | some previous => alpha * observedMs + (1.0 - alpha) * previous
  | none => observedMs

/-- `finish_request`: the backend at `index`, if there is one, counts one active request less, saturating at zero,
and unless the status is a 5xx its average takes in the request's latency of `latency` seconds -/
def finishRequest (index : ℕ) (latency : F) (status : Option ℕ) (load : List (BackendLoad F)) :
    List (BackendLoad F) :=
  load.modify index fun b =>
    if status.any fun code => 500 ≤ code && code ≤ 599 then { b with activeRequests := b.activeRequests - 1 }
    else { activeRequests := b.activeRequests - 1, ewmaLatencyMs := some (ewmaUpdate (latency * 1000.0) b.ewmaLatencyMs) }

@[simp] theorem length_finishRequest (index : ℕ) (latency : F) (status : Option ℕ) (load : List (BackendLoad F)) :
    (finishRequest index latency status load).length = load.length :=
  List.length_modify _ _ _

/-- `finish_request` takes one from the counter of `index`, saturating, and leaves every other backend's as it was -/
theorem activeRequests_finishRequest (index j : ℕ) (latency : F) (status : Option ℕ) (load : List (BackendLoad F)) :
    (finishRequest index latency status load)[j]?.map BackendLoad.activeRequests =
      load[j]?.map fun b => b.activeRequests - if index = j then 1 else 0 := by
  rw [finishRequest, List.getElem?_modify]
  cases load[j]? with
  | none => rfl
  | some b =>
    by_cases hj : index = j
    · by_cases h5 : status.any fun code => 500 ≤ code && code ≤ 599 <;> simp [hj, h5]
    · simp [hj]

end Writes

namespace LeastConnections

/-- one iteration of the loop of `pick_readonly`: the running best `(active, idx)` -/
def step (best : Option (ℕ × ℕ)) (active idx : ℕ) : Option (ℕ × ℕ) :=
  match best with
  | some (bestActive, bestIdx) =>
    if active < bestActive || (active == bestActive && idx < bestIdx) then some (active, idx) else best
  | none => some (active, idx)

/-- `pick_readonly`; `none` is the panic of `pool.backends[idx]` on an index past the end -/
def pickReadonly (lp : LoadedPool F) : Option (Option ℕ) :=
  (lp.pool.healthy.foldlM (fun best idx => lp.load[idx]?.map fun b => step best b.activeRequests idx) none).map
    fun best => best.map Prod.snd

end LeastConnections

namespace LatencyAware

variable [LinearOrder F]

/-- the sampled branch of the loop: the running best `(score, active, idx)` -/
def sampledStep (best : Option (F × ℕ × ℕ)) (score : F) (active idx : ℕ) : Option (F × ℕ × ℕ) :=
  match best with
  | some (bestScore, bestActive, bestIdx) =>
    if score < bestScore || (score == bestScore && (active < bestActive || (active == bestActive && idx < bestIdx)))
    then some (score, active, idx) else best
  | none => some (score, active, idx)

/-- the order of the sampled branch: score, then active requests, then index -/
def tripleKey (t : F × ℕ × ℕ) : Lex (F × Lex (ℕ × ℕ)) := toLex (t.1, toLex t.2)

variable [Add F] [Mul F] [NatCast F]

/-- `ewma + (active as f64 * 10.0)` -/
def score (ewma : F) (active : ℕ) : F := ewma + (active : F) * ((10 : ℕ) : F)

/-- one iteration of the loop of `pick_readonly`; its unsampled branch is the comparison of least-connections -/
def step (acc : Option (ℕ × ℕ) × Option (F × ℕ × ℕ)) (b : BackendLoad F) (idx : ℕ) :
    Option (ℕ × ℕ) × Option (F × ℕ × ℕ) :=
  match b.ewmaLatencyMs with
  | some ewma => (acc.1, sampledStep acc.2 (score ewma b.activeRequests) b.activeRequests idx)
  | none => (LeastConnections.step acc.1 b.activeRequests idx, acc.2)

/-- `pick_readonly`: an unsampled backend first; `none` is the panic of `pool.backends[idx]` -/
def pickReadonly (lp : LoadedPool F) : Option (Option ℕ) :=
  (lp.pool.healthy.foldlM (fun acc idx => lp.load[idx]?.map fun b => step acc b idx) (none, none)).map fun acc =>
    match acc.1 with
    | some (_, idx) => some idx
    | none => acc.2.map fun (_, _, idx) => idx

end LatencyAware

/-! ## The orders the loops minimise -/

namespace LoadedPool

variable (lp : LoadedPool F)

/-- the counters of backend `idx` -/
def loadOf (idx : ℕ) : BackendLoad F := lp.load.getD idx ⟨0, none⟩

/-- `(active_requests, index)`, the order of least-connections -/
def connKey (idx : ℕ) : Lex (ℕ × ℕ) := toLex ((lp.loadOf idx).activeRequests, idx)

/-- the keys of the indices of `l` whose backend has no latency sample -/
def unsampledKeys (l : List ℕ) : List (Lex (ℕ × ℕ)) :=
  (l.filter fun idx => (lp.loadOf idx).ewmaLatencyMs.isNone).map lp.connKey

/-- `(score, active_requests, index)`, the order of latency-aware among sampled backends -/
def latencyKey [LinearOrder F] [Add F] [Mul F] [NatCast F] (ewma : F) (idx : ℕ) : Lex (F × Lex (ℕ × ℕ)) :=
  LatencyAware.tripleKey (LatencyAware.score ewma (lp.loadOf idx).activeRequests, (lp.loadOf idx).activeRequests, idx)

/-- the keys of the indices of `l` whose backend has a latency sample -/
def sampledKeys [LinearOrder F] [Add F] [Mul F] [NatCast F] (l : List ℕ) : List (Lex (F × Lex (ℕ × ℕ))) :=
  l.filterMap fun idx => (lp.loadOf idx).ewmaLatencyMs.map fun ewma => lp.latencyKey ewma idx

/-- the same pool and counters with `healthy` replaced -/
def withHealthy (healthy : List ℕ) : LoadedPool F := ⟨{ lp.pool with healthy := healthy }, lp.load, lp.load_length⟩

variable {lp}

@[simp] theorem withHealthy_healthy (healthy : List ℕ) : (lp.withHealthy healthy).pool.healthy = healthy := rfl

@[simp] theorem withHealthy_backends (healthy : List ℕ) :
    (lp.withHealthy healthy).pool.backends = lp.pool.backends := rfl

@[simp] theorem connKey_withHealthy (healthy : List ℕ) : (lp.withHealthy healthy).connKey = lp.connKey := rfl

@[simp] theorem unsampledKeys_withHealthy (healthy : List ℕ) :
    (lp.withHealthy healthy).unsampledKeys = lp.unsampledKeys := rfl

@[simp] theorem sampledKeys_withHealthy [LinearOrder F] [Add F] [Mul F] [NatCast F] (healthy : List ℕ) :
    (lp.withHealthy healthy).sampledKeys = lp.sampledKeys := rfl

theorem getElem?_load {idx : ℕ} (h : idx < lp.pool.backends.length) : lp.load[idx]? = some (lp.loadOf idx) := by
  rw [loadOf, List.getD_eq_getElem?_getD, List.getElem?_eq_getElem (lp.load_length ▸ h)]
  rfl

theorem getElem?_load_eq_none {idx : ℕ} : lp.load[idx]? = none ↔ lp.pool.backends.length ≤ idx := by
  rw [List.getElem?_eq_none_iff, lp.load_length]

end LoadedPool

/-! ## Least connections -/

namespace LeastConnections

/-- the comparison of the loop is the lexicographic order of `(active, idx)` -/
theorem step_toLex (best : Option (ℕ × ℕ)) (active idx : ℕ) :
    (step best active idx).map toLex = MinFold.minStep (best.map toLex) (toLex (active, idx)) := by
  cases best with
  | none => rfl
  | some p =>
    obtain ⟨bestActive, bestIdx⟩ := p
    have hcond : (active < bestActive || (active == bestActive && idx < bestIdx)) = true ↔
        toLex (active, idx) < toLex (bestActive, bestIdx) := by
      simp [Prod.Lex.toLex_lt_toLex]
    simp only [step, Option.map_some, MinFold.minStep]
    by_cases h : toLex (active, idx) < toLex (bestActive, bestIdx)
    · rw [if_pos (hcond.2 h), if_pos h]
      rfl
    · rw [if_neg (mt hcond.1 h), if_neg h]
      rfl

/-- the loop over indices computes the least key -/
theorem foldl_step (lp : LoadedPool F) (l : List ℕ) :
    (l.foldl (fun best idx => step best (lp.loadOf idx).activeRequests idx) none).map toLex = (l.map lp.connKey).min? := by
  rw [← MinFold.foldl_minStep, List.foldl_map]
  exact (@List.foldl_hom _ _ _ (Option.map toLex) (fun best idx => step best (lp.loadOf idx).activeRequests idx)
    (fun best idx => MinFold.minStep best (lp.connKey idx)) l none fun best idx => (step_toLex best _ idx).symm).symm

theorem pickReadonly_eq {lp : LoadedPool F} (hin : ∀ i ∈ lp.pool.healthy, i < lp.pool.backends.length) :
    pickReadonly lp = some ((lp.pool.healthy.map lp.connKey).min?.map fun k => (ofLex k).2) := by
  unfold pickReadonly
  rw [Fallible.foldlM_lookup_of_eq (g := fun idx => lp.load[idx]?)
    (f := fun best b idx => step best b.activeRequests idx) lp.loadOf fun idx hidx => LoadedPool.getElem?_load (hin idx hidx),
    Option.map_some, ← foldl_step, Option.map_map]
  rfl

theorem pickReadonly_eq_none {lp : LoadedPool F} :
    pickReadonly lp = none ↔ ∃ i ∈ lp.pool.healthy, lp.pool.backends.length ≤ i := by
  unfold pickReadonly
  rw [Option.map_eq_none_iff, Fallible.foldlM_lookup_eq_none (g := fun idx => lp.load[idx]?)
    (f := fun best b idx => step best b.activeRequests idx)]
  simp only [LoadedPool.getElem?_load_eq_none]

/-- the pick is an index of `healthy` -/
theorem pickReadonly_mem {lp : LoadedPool F} {i : ℕ} (h : pickReadonly lp = some (some i)) : i ∈ lp.pool.healthy := by
  have hin : ∀ j ∈ lp.pool.healthy, j < lp.pool.backends.length := fun j hj =>
    Nat.lt_of_not_le fun hle => by rw [pickReadonly_eq_none.2 ⟨j, hj, hle⟩] at h; cases h
  rw [pickReadonly_eq hin, Option.some.injEq] at h
  obtain ⟨k, hk, rfl⟩ := Option.map_eq_some_iff.1 h
  obtain ⟨j, hj, rfl⟩ := List.mem_map.1 (List.min?_mem hk)
  exact hj

end LeastConnections

/-! ## Latency-aware -/

namespace LoadedPool

variable {lp : LoadedPool F} {l l' : List ℕ}

theorem unsampledKeys_perm (h : l.Perm l') : (lp.unsampledKeys l).Perm (lp.unsampledKeys l') :=
  (h.filter _).map _

section Sampled

variable [LinearOrder F] [Add F] [Mul F] [NatCast F]

theorem sampledKeys_perm (h : l.Perm l') : (lp.sampledKeys l).Perm (lp.sampledKeys l') :=
  h.filterMap _

/-- every index is sampled or not, so both key lists are empty only for no index -/
theorem keys_eq_nil : lp.unsampledKeys l = [] ∧ lp.sampledKeys l = [] ↔ l = [] := by
  cases l with
  | nil => simp [unsampledKeys, sampledKeys]
  | cons x xs => cases hx : (lp.loadOf x).ewmaLatencyMs <;> simp [unsampledKeys, sampledKeys, hx]

end Sampled

end LoadedPool

namespace LatencyAware

variable [LinearOrder F]

/-- the comparison of the sampled branch is the lexicographic order of `(score, active, idx)` -/
theorem sampledStep_toLex (best : Option (F × ℕ × ℕ)) (score : F) (active idx : ℕ) :
    (sampledStep best score active idx).map tripleKey =
      MinFold.minStep (best.map tripleKey) (tripleKey (score, active, idx)) := by
  cases best with
  | none => rfl
  | some p =>
    obtain ⟨bestScore, bestActive, bestIdx⟩ := p
    have hcond : (score < bestScore ||
        (score == bestScore && (active < bestActive || (active == bestActive && idx < bestIdx)))) = true ↔
        tripleKey (score, active, idx) < tripleKey (bestScore, bestActive, bestIdx) := by
      simp [tripleKey, Prod.Lex.toLex_lt_toLex]
    simp only [sampledStep, Option.map_some, MinFold.minStep]
    by_cases h : tripleKey (score, active, idx) < tripleKey (bestScore, bestActive, bestIdx)
    · rw [if_pos (hcond.2 h), if_pos h]
      rfl
    · rw [if_neg (mt hcond.1 h), if_neg h]
      rfl

variable [Add F] [Mul F] [NatCast F]

theorem step_of_none {b : BackendLoad F} (h : b.ewmaLatencyMs = none) (acc : Option (ℕ × ℕ) × Option (F × ℕ × ℕ))
    (idx : ℕ) : step acc b idx = (LeastConnections.step acc.1 b.activeRequests idx, acc.2) := by
  rw [step, h]

theorem step_of_some {b : BackendLoad F} {ewma : F} (h : b.ewmaLatencyMs = some ewma)
    (acc : Option (ℕ × ℕ) × Option (F × ℕ × ℕ)) (idx : ℕ) :
    step acc b idx = (acc.1, sampledStep acc.2 (score ewma b.activeRequests) b.activeRequests idx) := by
  rw [step, h]

/-- the loop runs the least-connections loop over the unsampled indices and the sampled loop over the others -/
theorem foldl_step (lp : LoadedPool F) (l : List ℕ) (acc : Option (ℕ × ℕ) × Option (F × ℕ × ℕ)) :
    (l.foldl (fun acc idx => step acc (lp.loadOf idx) idx) acc).1.map toLex =
        (lp.unsampledKeys l).foldl MinFold.minStep (acc.1.map toLex) ∧
      (l.foldl (fun acc idx => step acc (lp.loadOf idx) idx) acc).2.map tripleKey =
        (lp.sampledKeys l).foldl MinFold.minStep (acc.2.map tripleKey) := by
  induction l generalizing acc with
  | nil => exact ⟨rfl, rfl⟩
  | cons x xs ih =>
    rw [List.foldl_cons]
    obtain ⟨h1, h2⟩ := ih (step acc (lp.loadOf x) x)
    rw [h1, h2]
    cases hx : (lp.loadOf x).ewmaLatencyMs with
    | none =>
      have hu : lp.unsampledKeys (x :: xs) = lp.connKey x :: lp.unsampledKeys xs := by
        simp [LoadedPool.unsampledKeys, hx]
      have hs : lp.sampledKeys (x :: xs) = lp.sampledKeys xs := by simp [LoadedPool.sampledKeys, hx]
      rw [hu, hs, List.foldl_cons, step_of_none hx]
      exact ⟨by rw [LeastConnections.step_toLex]; rfl, rfl⟩
    | some ewma =>
      have hu : lp.unsampledKeys (x :: xs) = lp.unsampledKeys xs := by simp [LoadedPool.unsampledKeys, hx]
      have hs : lp.sampledKeys (x :: xs) = lp.latencyKey ewma x :: lp.sampledKeys xs := by
        simp [LoadedPool.sampledKeys, hx]
      rw [hu, hs, List.foldl_cons, step_of_some hx]
      exact ⟨rfl, by rw [sampledStep_toLex]; rfl⟩

/-- the pick is the least unsampled key's index, or else the least sampled key's -/
theorem pickReadonly_eq {lp : LoadedPool F} (hin : ∀ i ∈ lp.pool.healthy, i < lp.pool.backends.length) :
    pickReadonly lp = some (match (lp.unsampledKeys lp.pool.healthy).min? with
      | some k => some (ofLex k).2
      | none => (lp.sampledKeys lp.pool.healthy).min?.map fun k => (ofLex (ofLex k).2).2) := by
  unfold pickReadonly
  rw [Fallible.foldlM_lookup_of_eq (g := fun idx => lp.load[idx]?) (f := fun acc b idx => step acc b idx) lp.loadOf
    fun idx hidx => LoadedPool.getElem?_load (hin idx hidx), Option.map_some]
  obtain ⟨h1, h2⟩ := foldl_step lp lp.pool.healthy (none, none)
  rw [Option.map_none, MinFold.foldl_minStep] at h1 h2
  generalize List.foldl (fun acc idx => step acc (lp.loadOf idx) idx) (none, none) lp.pool.healthy = acc at h1 h2 ⊢
  obtain ⟨best, sampled⟩ := acc
  rw [← h1, ← h2]
  cases best with
  | some p => rfl
  | none => cases sampled <;> rfl

theorem pickReadonly_eq_none {lp : LoadedPool F} :
    pickReadonly lp = none ↔ ∃ i ∈ lp.pool.healthy, lp.pool.backends.length ≤ i := by
  unfold pickReadonly
  rw [Option.map_eq_none_iff, Fallible.foldlM_lookup_eq_none (g := fun idx => lp.load[idx]?)
    (f := fun acc b idx => step acc b idx)]
  simp only [LoadedPool.getElem?_load_eq_none]

/-- the pick is an index of `healthy` -/
theorem pickReadonly_mem {lp : LoadedPool F} {i : ℕ} (h : pickReadonly lp = some (some i)) : i ∈ lp.pool.healthy := by
  have hin : ∀ j ∈ lp.pool.healthy, j < lp.pool.backends.length := fun j hj =>
    Nat.lt_of_not_le fun hle => by rw [pickReadonly_eq_none.2 ⟨j, hj, hle⟩] at h; cases h
  rw [pickReadonly_eq hin, Option.some.injEq] at h
  cases hu : (lp.unsampledKeys lp.pool.healthy).min? with
  | some k =>
    rw [hu, Option.some.injEq] at h
    subst h
    -- an unsampled key is the key of an index of `healthy`
    obtain ⟨j, hj, rfl⟩ := List.mem_map.1 (List.min?_mem hu)
    exact (List.mem_filter.1 hj).1
  | none =>
    rw [hu] at h
    obtain ⟨k, hk, rfl⟩ := Option.map_eq_some_iff.1 h
    obtain ⟨j, hj, hjk⟩ := List.mem_filterMap.1 (List.min?_mem hk)
    obtain ⟨ewma, -, rfl⟩ := Option.map_eq_some_iff.1 hjk
    exact hj

end LatencyAware

/-! ## Both picks are order-independent minima -/

/-- a pick that panics exactly on an index past the end returns exactly when every index is in range -/
theorem isSome_iff_inRange {o : Option (Option ℕ)} {l : List ℕ} {n : ℕ} (h : o = none ↔ ∃ i ∈ l, n ≤ i) :
    o.isSome ↔ ∀ i ∈ l, i < n := by
  rw [Option.isSome_iff_ne_none, Ne, h]
  simp only [not_exists, not_and, not_le]

/-- least-connections returns exactly when every healthy index is in range, and then it returns the index of the
least `(active_requests, index)`, none only for no healthy index; latency-aware returns exactly then too, with the
index of the least `(active, index)` among unsampled healthy backends if there is one, and otherwise of the least
`(ewma + 10 * active, active, index)`; neither depends on the order of `healthy` -/
theorem least_loaded_picks [LinearOrder F] [Add F] [Mul F] [NatCast F] (lp : LoadedPool F) :
    ((LeastConnections.pickReadonly lp).isSome ↔ ∀ i ∈ lp.pool.healthy, i < lp.pool.backends.length) ∧
    ((LatencyAware.pickReadonly lp).isSome ↔ ∀ i ∈ lp.pool.healthy, i < lp.pool.backends.length) ∧
    (∀ r, LeastConnections.pickReadonly lp = some r →
      r = (lp.pool.healthy.map lp.connKey).min?.map (fun k => (ofLex k).2) ∧ (r = none ↔ lp.pool.healthy = [])) ∧
    (∀ r, LatencyAware.pickReadonly lp = some r →
      r = (match (lp.unsampledKeys lp.pool.healthy).min? with
        | some k => some (ofLex k).2
        | none => (lp.sampledKeys lp.pool.healthy).min?.map fun k => (ofLex (ofLex k).2).2) ∧
      (r = none ↔ lp.pool.healthy = [])) ∧
    ∀ healthy, healthy.Perm lp.pool.healthy →
      LeastConnections.pickReadonly (lp.withHealthy healthy) = LeastConnections.pickReadonly lp ∧
      LatencyAware.pickReadonly (lp.withHealthy healthy) = LatencyAware.pickReadonly lp := by
  have hlc := isSome_iff_inRange
    (show LeastConnections.pickReadonly lp = none ↔ _ from LeastConnections.pickReadonly_eq_none)
  have hla := isSome_iff_inRange
    (show LatencyAware.pickReadonly lp = none ↔ _ from LatencyAware.pickReadonly_eq_none)
  refine ⟨hlc, hla, fun r hr => ?_, fun r hr => ?_, fun healthy hperm => ?_⟩
  · rw [LeastConnections.pickReadonly_eq (hlc.1 (by rw [hr]; rfl)), Option.some.injEq] at hr
    subst hr
    refine ⟨rfl, ?_⟩
    rw [Option.map_eq_none_iff, List.min?_eq_none_iff, List.map_eq_nil_iff]
  · rw [LatencyAware.pickReadonly_eq (hla.1 (by rw [hr]; rfl)), Option.some.injEq] at hr
    subst hr
    refine ⟨rfl, ?_⟩
    rw [← (LoadedPool.keys_eq_nil : lp.unsampledKeys _ = [] ∧ lp.sampledKeys _ = [] ↔ _)]
    cases hu : (lp.unsampledKeys lp.pool.healthy).min? with
    | some k =>
      -- an unsampled key exists, so neither side holds
      have hne : lp.unsampledKeys lp.pool.healthy ≠ [] := fun h => by
        rw [h] at hu
        cases hu
      simp [hne]
    | none =>
      rw [List.min?_eq_none_iff.1 hu, Option.map_eq_none_iff, List.min?_eq_none_iff]
      simp
  · -- the same indices are in range, and the keys are permuted
    have hmem : ∀ i, i ∈ healthy ↔ i ∈ lp.pool.healthy := fun i => hperm.mem_iff
    by_cases hout : ∃ i ∈ lp.pool.healthy, lp.pool.backends.length ≤ i
    · obtain ⟨i, hi, hle⟩ := hout
      have hi' : i ∈ (lp.withHealthy healthy).pool.healthy := (hmem i).2 hi
      rw [LeastConnections.pickReadonly_eq_none.2 ⟨i, hi', hle⟩, LeastConnections.pickReadonly_eq_none.2 ⟨i, hi, hle⟩,
        LatencyAware.pickReadonly_eq_none.2 ⟨i, hi', hle⟩, LatencyAware.pickReadonly_eq_none.2 ⟨i, hi, hle⟩]
      exact ⟨rfl, rfl⟩
    · have hin : ∀ i ∈ lp.pool.healthy, i < lp.pool.backends.length :=
        fun i hi => Nat.lt_of_not_le fun hle => hout ⟨i, hi, hle⟩
      have hin' : ∀ i ∈ (lp.withHealthy healthy).pool.healthy, i < (lp.withHealthy healthy).pool.backends.length :=
        fun i hi => hin i ((hmem i).1 hi)
      rw [LeastConnections.pickReadonly_eq hin', LeastConnections.pickReadonly_eq hin,
        LatencyAware.pickReadonly_eq hin', LatencyAware.pickReadonly_eq hin]
      simp only [LoadedPool.withHealthy_healthy, LoadedPool.connKey_withHealthy, LoadedPool.unsampledKeys_withHealthy,
        LoadedPool.sampledKeys_withHealthy]
      rw [MinFold.min?_perm (hperm.map lp.connKey), MinFold.min?_perm (LoadedPool.unsampledKeys_perm hperm),
        MinFold.min?_perm (LoadedPool.sampledKeys_perm hperm)]
      exact ⟨rfl, rfl⟩

/-- two backends with latency samples: the second has the fewer requests and the lower score -/
def busyPair : LoadedPool ℕ :=
  ⟨BackendPool.newFromStates [BackendState.new ⟨"10.0.0.1:1", 1, none⟩, BackendState.new ⟨"10.0.0.2:1", 1, none⟩],
    [⟨3, some 40⟩, ⟨1, some 50⟩], rfl⟩

theorem busy_pair_picks_reordered :
    LeastConnections.pickReadonly (busyPair.withHealthy [1, 0]) = LeastConnections.pickReadonly busyPair ∧
      LatencyAware.pickReadonly (busyPair.withHealthy [1, 0]) = LatencyAware.pickReadonly busyPair :=
  (least_loaded_picks busyPair).2.2.2.2 [1, 0] (by decide)

example : LeastConnections.pickReadonly busyPair = some (some 1) ∧ LatencyAware.pickReadonly busyPair = some (some 1) := by
  decide

end Spooky.Lb
