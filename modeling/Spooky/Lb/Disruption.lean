/-
Consistent hashing moves only the keys of the backend that leaves or joins (`crates/lb/src/algorithms/consistent_hash.rs`).

The ring reads of a backend only its address and weight (`freshRing_congr`), and no operation of the pool changes
either: `mark_success`, `mark_failure*` and `reconcile_readmit_at` only rewrite health fields (`run_configs`). So two
pools of one run, with debug assertions, whose healthy backends differ by one index `b`, are related by
`WithoutBackend`: the same ring data, and the healthy list of the smaller one is the other's without `b` up to order.
The fresh ring of the smaller pool is then the larger one's without `b`'s entries (`freshRing_without`). The owner of
a key is the first entry clockwise from its hash (`ringOwner`), and dropping entries of other backends keeps it the
owner (`Cyclic.firstOrHead_filter`).

`pick_moves_only_changed_backend`: for two pools of one run from `new_from_states` (whose clock values do not go
back), caches coherent with them and distinct hashes on the larger ring, when the run ejects `b` and nothing else
changes health, a key whose pick did not answer `b` is picked the same after; when it re-admits `b`, a key whose pick
afterwards does not answer `b` was picked the same before. `pair_ejection_keeps_other_keys`: three failures eject
backend 0 of `pairPool`, and a key owned by backend 1 keeps its owner.
-/
import Spooky.Lb.ConsistentHash
import Spooky.Lb.PoolInvariants

namespace Spooky.Lb

namespace ConsistentHash

open BackendPool

/-- `pool'` is `pool` with backend `b` out of the healthy set: the ring data of every backend is kept -/
def WithoutBackend (b : ℕ) (pool pool' : BackendPool) : Prop :=
  pool'.backends.map ringData = pool.backends.map ringData ∧ pool'.healthy.Perm (pool.healthy.filter (· ≠ b))

/-- the ring data of a backend is part of its configuration, which no run changes (`run_configs`) -/
theorem map_ringData_of_configs {l l' : List BackendState}
    (h : l'.map BackendState.config = l.map BackendState.config) : l'.map ringData = l.map ringData := by
  have h' := congrArg (List.map fun c : String × ℕ × Option HealthCheck => (c.1, c.2.1)) h
  rw [show ringData = fun b => (b.address, b.weight) from rfl]
  simpa only [List.map_map, Function.comp_def, BackendState.config] using h'

theorem WithoutBackend.backends_eq_nil {b : ℕ} {pool pool' : BackendPool} (hw : WithoutBackend b pool pool') :
    pool'.backends = [] ↔ pool.backends = [] := by
  rw [← List.map_eq_nil_iff (f := ringData), hw.1, List.map_eq_nil_iff]

/-- two pools whose membership caches are exact, with the same ring data, and whose healthy backends differ by `b`
alone -/
theorem withoutBackend_of_healthyIndex {b : ℕ} {pool pool' : BackendPool} (hinv : MembershipInv pool)
    (hinv' : MembershipInv pool') (hdata : pool'.backends.map ringData = pool.backends.map ringData)
    (hh : ∀ i, HealthyIndex pool' i ↔ HealthyIndex pool i ∧ i ≠ b) : WithoutBackend b pool pool' := by
  refine ⟨hdata, (List.perm_ext_iff_of_nodup hinv'.nodup (hinv.nodup.filter _)).2 fun i => ?_⟩
  rw [hinv'.mem_iff, hh, List.mem_filter, hinv.mem_iff, decide_eq_true_iff]

/-! ## The ring without one backend -/

theorem ringOwner_eq (ring : List RingEntry) (keyHash : UInt64) :
    ringOwner ring keyHash = (Cyclic.firstOrHead (fun e => keyHash ≤ e.1) ring).map Prod.snd := rfl

/-- the owner of a key stays its owner when the entries of another backend leave the ring -/
theorem ringOwner_filter {ring : List RingEntry} {keyHash : UInt64} {b : ℕ} (h : ringOwner ring keyHash ≠ some b) :
    ringOwner (ring.filter fun e => e.2 ≠ b) keyHash = ringOwner ring keyHash := by
  simp only [ringOwner_eq] at h ⊢
  cases ho : Cyclic.firstOrHead (fun e => keyHash ≤ e.1) ring with
  | none =>
    -- only the empty ring has no owner
    rw [Cyclic.firstOrHead_eq_none.1 ho]
    rfl
  | some e =>
    rw [ho, Option.map_some, ne_eq, Option.some.injEq] at h
    rw [Cyclic.firstOrHead_filter ho (by simpa using h)]

theorem snd_of_mem_entriesAt {replicas idx : ℕ} {pool : BackendPool} {e : RingEntry}
    (he : e ∈ entriesAt replicas pool idx) : e.2 = idx := by
  simp only [entriesAt, replicaEntries] at he
  cases hb : pool.backends[idx]? with
  | none => simp [hb] at he
  | some backend =>
    simp only [hb, Option.map_some, Option.getD_some, List.mem_map, List.mem_range] at he
    obtain ⟨r, -, rfl⟩ := he
    rfl

/-- dropping an index from the healthy list drops exactly its entries, since each entry carries its index -/
theorem flatMap_entriesAt_filter (replicas b : ℕ) (pool : BackendPool) (healthy : List ℕ) :
    (healthy.filter (· ≠ b)).flatMap (entriesAt replicas pool) =
      (healthy.flatMap (entriesAt replicas pool)).filter fun e => e.2 ≠ b := by
  induction healthy with
  | nil => rfl
  | cons idx rest ih =>
    rw [List.flatMap_cons, List.filter_append, List.filter_cons]
    by_cases hidx : idx = b
    · -- all of `b`'s entries go
      have hnone : (entriesAt replicas pool idx).filter (fun e => e.2 ≠ b) = [] :=
        List.filter_eq_nil_iff.2 fun e he => by simp [snd_of_mem_entriesAt he, hidx]
      rw [if_neg (by simp [hidx]), hnone, List.nil_append, ih]
    · -- all of another index's entries stay
      have hall : (entriesAt replicas pool idx).filter (fun e => e.2 ≠ b) = entriesAt replicas pool idx :=
        List.filter_eq_self.2 fun e he => by simp [snd_of_mem_entriesAt he, hidx]
      rw [if_pos (by simpa using hidx), List.flatMap_cons, hall, ih]

/-- sorting the ring commutes with dropping entries -/
theorem mergeSort_filter (entries : List RingEntry) (q : RingEntry → Bool) :
    (entries.filter q).mergeSort ringLe = (entries.mergeSort ringLe).filter q :=
  (sorted_ring_unique ((List.mergeSort_perm entries ringLe).filter q) ((sorted_mergeSort entries).filter q)).symm

/-- the fresh ring without a backend is the fresh ring with that backend's entries dropped -/
theorem freshRing_without {replicas b : ℕ} {pool pool' : BackendPool} {ring : List RingEntry}
    (hw : WithoutBackend b pool pool') (h : freshRing replicas pool = some ring) :
    freshRing replicas pool' = some (ring.filter fun e => e.2 ≠ b) := by
  have hcongr : freshRing replicas pool' = freshRing replicas { pool with healthy := pool.healthy.filter (· ≠ b) } :=
    freshRing_congr replicas hw.2 fun idx _ => by rw [← List.getElem?_map, ← List.getElem?_map, hw.1]
  rw [hcongr]
  rw [freshRing_eq] at h ⊢
  split at h
  · rename_i hall
    obtain rfl := Option.some.inj h
    have hall' : ∀ idx ∈ pool.healthy.filter (· ≠ b), idx < pool.backends.length :=
      fun idx hidx => hall idx (List.mem_of_mem_filter hidx)
    rw [if_pos hall']
    exact congrArg some
      ((congrArg (List.mergeSort · ringLe) (flatMap_entriesAt_filter replicas b pool pool.healthy)).trans
        (mergeSort_filter _ _))
  · cases h

/-! ## Picks before and after -/

/-- a pick that does not answer the backend that leaves answers the same after it left -/
theorem pick_without {b : ℕ} {key : String} {pool pool' : BackendPool} {ch ch' : ConsistentHash}
    {ring ring' : List RingEntry} (hw : WithoutBackend b pool pool') (hrep : ch'.replicas = ch.replicas)
    (hfresh : freshRing ch.replicas pool = some ring) (hfresh' : freshRing ch'.replicas pool' = some ring')
    (hc : Coherent ch pool ring) (hc' : Coherent ch' pool' ring') (hd : (ring.map Prod.fst).Nodup)
    (hpick : (ch.pick key pool).map Prod.snd ≠ some (some b)) :
    (ch'.pick key pool').map Prod.snd = (ch.pick key pool).map Prod.snd := by
  have hring' : ring' = ring.filter fun e => e.2 ≠ b := by
    rw [hrep, freshRing_without hw hfresh] at hfresh'
    exact (Option.some.inj hfresh').symm
  subst hring'
  by_cases hne : pool.backends = []
  · -- no backends at all: both picks answer nothing
    have hne' : pool'.backends = [] := hw.backends_eq_nil.2 hne
    simp [pick, hne, hne']
  · have hd' : ((ring.filter fun e => e.2 ≠ b).map Prod.fst).Nodup :=
      (List.filter_sublist.map Prod.fst).nodup hd
    have hown := pick_eq_ringOwner key hne hfresh hc hd
    rw [pick_eq_ringOwner key (fun h => hne (hw.backends_eq_nil.1 h)) hfresh' hc' hd', hown]
    rw [hown, ne_eq, Option.some.injEq] at hpick
    rw [ringOwner_filter hpick]

/-- two pools of one run with debug assertions from `new_from_states`, one after the other: when the backends that
are healthy differ by `b` alone, removing `b` or adding it back only remaps the keys that `b` owns -/
theorem pick_moves_only_changed_backend {bs : List BackendState}
    (hfresh : ∀ b ∈ bs, b.hasActiveHealthCheck = false → b.isHealthy = true) {ops ops' : List PoolOp}
    (hord : ((ops ++ ops').map PoolOp.now).Pairwise (· ≤ ·)) {pool pool' : BackendPool}
    (hrun : run true (newFromStates bs) ops = some pool) (hrun' : run true pool ops' = some pool') (b : ℕ)
    (key : String) {ch ch' : ConsistentHash} {ring ring' : List RingEntry} (hrep : ch'.replicas = ch.replicas)
    (hfr : freshRing ch.replicas pool = some ring) (hfr' : freshRing ch'.replicas pool' = some ring')
    (hc : Coherent ch pool ring) (hc' : Coherent ch' pool' ring') :
    ((∀ i, HealthyIndex pool' i ↔ HealthyIndex pool i ∧ i ≠ b) → (ring.map Prod.fst).Nodup →
      (ch.pick key pool).map Prod.snd ≠ some (some b) →
      (ch'.pick key pool').map Prod.snd = (ch.pick key pool).map Prod.snd) ∧
    ((∀ i, HealthyIndex pool i ↔ HealthyIndex pool' i ∧ i ≠ b) → (ring'.map Prod.fst).Nodup →
      (ch'.pick key pool').map Prod.snd ≠ some (some b) →
      (ch'.pick key pool').map Prod.snd = (ch.pick key pool).map Prod.snd) := by
  have hord₀ : (ops.map PoolOp.now).Pairwise (· ≤ ·) := by
    rw [List.map_append, List.pairwise_append] at hord
    exact hord.1
  have hinv : MembershipInv pool := run_membershipInv hfresh hord₀ hrun
  have hinv' : MembershipInv pool' :=
    run_membershipInv hfresh hord ((run_append hrun).trans hrun')
  have hdata := map_ringData_of_configs (run_configs hrun')
  refine ⟨fun hh hd hpick => ?_, fun hh hd hpick => ?_⟩
  · -- `b` leaves
    exact pick_without (withoutBackend_of_healthyIndex hinv hinv' hdata hh) hrep hfr hfr' hc hc' hd hpick
  · -- `b` joins
    exact (pick_without (withoutBackend_of_healthyIndex hinv' hinv hdata.symm hh) hrep.symm hfr' hfr hc' hc hd
      hpick).symm

/-- three failures of backend 0 of `pairPool` eject it and nothing else; the key `/users`, which backend 1 owns,
keeps its owner -/
theorem pair_ejection_keeps_other_keys :
    ∃ pool', run true pairPool threeFailures = some pool' ∧
      (∀ i, HealthyIndex pool' i ↔ HealthyIndex pairPool i ∧ i ≠ 0) ∧ (pairRing.map Prod.fst).Nodup ∧
      ((new 4).pick "/users" pairPool).map Prod.snd = some (some 1) ∧
      ((new 4).pick "/users" pool').map Prod.snd = ((new 4).pick "/users" pairPool).map Prod.snd := by
  have hfresh : ∀ b ∈ [BackendState.new ⟨"10.0.0.1:1", 1, none⟩, BackendState.new ⟨"10.0.0.2:1", 2, none⟩],
      b.hasActiveHealthCheck = false → b.isHealthy = true := by decide
  have hrun : run true (newFromStates [BackendState.new ⟨"10.0.0.1:1", 1, none⟩,
      BackendState.new ⟨"10.0.0.2:1", 2, none⟩]) [] = some pairPool := rfl
  obtain ⟨pool', hrun'⟩ : ∃ pool', run true pairPool threeFailures = some pool' :=
    Option.isSome_iff_exists.1 (by decide)
  have hinv : MembershipInv pairPool := membershipInv_newFromStates _
  have hinv' : MembershipInv pool' := run_membershipInv hfresh (by decide) hrun'
  -- the run leaves backend 1 alone in the cache, which is exact
  have hhealthy : pool'.healthy = [1] := by
    have h : (run true pairPool threeFailures).map BackendPool.healthy = some [1] := by decide
    rw [hrun', Option.map_some, Option.some.injEq] at h
    exact h
  have hh : ∀ i, HealthyIndex pool' i ↔ HealthyIndex pairPool i ∧ i ≠ 0 := by
    intro i
    rw [← hinv'.mem_iff, ← hinv.mem_iff, hhealthy, show pairPool.healthy = [0, 1] from rfl]
    simp only [List.mem_cons, List.not_mem_nil, or_false]
    omega
  obtain ⟨ring', hfr'⟩ : ∃ ring', freshRing (new 4).replicas pool' = some ring' :=
    ⟨_, (freshRing_eq _ pool').trans (if_pos hinv'.lt_length)⟩
  have hd : (pairRing.map Prod.fst).Nodup := by decide
  have hpick : ((new 4).pick "/users" pairPool).map Prod.snd = some (some 1) := by
    rw [pick_eq_ringOwner "/users" (by decide) freshRing_pairPool (fun h => by cases h) hd]
    decide
  refine ⟨pool', hrun', hh, hd, hpick, ?_⟩
  exact (pick_moves_only_changed_backend hfresh (by decide) hrun hrun' 0 "/users" rfl freshRing_pairPool hfr'
    (fun h => by cases h) (fun h => by cases h)).1 hh hd (by rw [hpick]; decide)

end ConsistentHash

end Spooky.Lb
