/-
Consistent hashing over the healthy backends (`crates/lb/src/algorithms/consistent_hash.rs`).

The ring holds `replicas * weight` entries `(hash_backend_replica(address, r), index)` for each index of
`pool.healthy`, sorted. It is rebuilt when the pool's `membership_epoch` differs from the epoch it was built at. A pick
hashes the key and takes the first entry whose hash is at least the key's, wrapping to the first entry.

`sort_unstable` is `mergeSort` under the order of `(u64, usize)` pairs: that order is total and antisymmetric, so every
sort of the entries gives the same list (`sorted_ring_unique`).

Results:
- `pick_coherent`: on a cache that is either stale or holds the fresh ring, a pick answers the lookup on the fresh
  ring and leaves the fresh ring cached; `lookup_eq_ringOwner` says what that lookup is when hashes are distinct.
- `freshRing_perm`: the ring depends on `healthy` only up to order.
- `release_pick_returns_ejected_backend`: in the release profile three failures eject the only backend of
  `loneBackend`, and every key still picks it.
-/
import Spooky.Lb.Hash
import Spooky.Lb.BackendPool
import Spooky.Lib.BinarySearch

namespace Spooky.Lb

open BinarySearch Counters

/-- a ring entry: a replica's hash and the index of its backend -/
abbrev RingEntry := UInt64 × ℕ

structure ConsistentHash where
  replicas : ℕ
  ring : List RingEntry
  ringEpoch : Option UInt64
  ringRebuilds : UInt64
deriving DecidableEq, Repr

namespace ConsistentHash

def new (replicas : ℕ) : ConsistentHash := ⟨max replicas 1, [], none, 0⟩

/-- the derived order of `(u64, usize)`: by hash, then by index -/
def ringLe (a b : RingEntry) : Bool := decide (a.1 < b.1 ∨ a.1 = b.1 ∧ a.2 ≤ b.2)

/-- the entries one backend pushes: `replicas.saturating_mul(weight)` of them -/
def replicaEntries (replicas : ℕ) (backend : BackendState) (idx : ℕ) : List RingEntry :=
  (List.range (min (replicas * backend.weight) u32Max)).map fun replica =>
    (hashBackendReplica backend.address replica, idx)

/-- the loop of `rebuild_ring` over `pool.healthy`, before the sort; `pool.backends[idx]` panics past the end -/
def ringEntries (replicas : ℕ) (pool : BackendPool) : Option (List RingEntry) :=
  (pool.healthy.mapM fun idx => pool.backends[idx]?.map fun backend => replicaEntries replicas backend idx).map
    List.flatten

/-- the ring `rebuild_ring` builds -/
def freshRing (replicas : ℕ) (pool : BackendPool) : Option (List RingEntry) :=
  (ringEntries replicas pool).map fun entries => entries.mergeSort ringLe

def rebuildRing (ch : ConsistentHash) (pool : BackendPool) : Option ConsistentHash :=
  (freshRing ch.replicas pool).map fun ring => { ch with ring := ring }

/-- the index `pick` reads: the search's answer, wrapping past the end to the first entry -/
def lookupIdx (ring : List RingEntry) (keyHash : UInt64) : ℕ :=
  match binarySearchBy (fun e => compare e.1 keyHash) ring with
  | .ok idx => idx
  | .error idx => if idx < ring.length then idx else 0

/-- `pick`: the instance after the call and the answer -/
def pick (ch : ConsistentHash) (key : String) (pool : BackendPool) : Option (ConsistentHash × Option ℕ) :=
  if pool.backends.isEmpty then some (ch, none)
  else
    let epoch := pool.membershipEpoch
    let ready : Option ConsistentHash :=
      if ch.ringEpoch ≠ some epoch then
        (ch.rebuildRing pool).map fun ch => { ch with ringEpoch := some epoch, ringRebuilds := ch.ringRebuilds + 1 }
      else some ch
    ready.bind fun ch =>
      if ch.ring.isEmpty then some (ch, none)
      else (ch.ring[lookupIdx ch.ring (hash64 (Text.utf8 key))]?).map fun e => (ch, some e.2)

/-! ## What the ring is for -/

/-- the owner of a key hash: the first entry clockwise from it, that is the first whose hash is at least it, or else
the first entry -/
def ringOwner (ring : List RingEntry) (keyHash : UInt64) : Option ℕ :=
  ((ring.find? fun e => keyHash ≤ e.1).or ring.head?).map Prod.snd

/-! ## The order of the ring -/

theorem compare_toNat (a b : UInt64) : compare a b = compare a.toNat b.toNat := by
  simp only [compare, compareOfLessAndEq, UInt64.lt_iff_toNat_lt, UInt64.toNat_inj]

theorem ringLe_iff (a b : RingEntry) :
    ringLe a b = true ↔ a.1.toNat < b.1.toNat ∨ a.1.toNat = b.1.toNat ∧ a.2 ≤ b.2 := by
  simp [ringLe, UInt64.lt_iff_toNat_lt, UInt64.toNat_inj]

theorem ringLe_trans (a b c : RingEntry) (hab : ringLe a b = true) (hbc : ringLe b c = true) : ringLe a c = true := by
  rw [ringLe_iff] at *
  omega

theorem ringLe_total (a b : RingEntry) : (ringLe a b || ringLe b a) = true := by
  rw [Bool.or_eq_true, ringLe_iff, ringLe_iff]
  omega

theorem ringLe_antisymm (a b : RingEntry) (hab : ringLe a b = true) (hba : ringLe b a = true) : a = b := by
  rw [ringLe_iff] at hab hba
  have h1 : a.1 = b.1 := UInt64.toNat_inj.1 (by omega)
  exact Prod.ext h1 (by omega)

theorem sorted_mergeSort (entries : List RingEntry) : (entries.mergeSort ringLe).Pairwise fun a b => ringLe a b :=
  List.pairwise_mergeSort ringLe_trans ringLe_total entries

/-- any sort of the entries is the one `mergeSort` gives, since the order is antisymmetric -/
theorem sorted_ring_unique {entries ring : List RingEntry} (hp : ring.Perm entries)
    (hs : ring.Pairwise fun a b => ringLe a b) : ring = entries.mergeSort ringLe :=
  hp.trans (List.mergeSort_perm entries ringLe).symm |>.eq_of_pairwise (fun a b _ _ => ringLe_antisymm a b) hs
    (sorted_mergeSort entries)

theorem hash_le_of_ringLe {a b : RingEntry} (h : ringLe a b = true) : a.1.toNat ≤ b.1.toNat := by
  rw [ringLe_iff] at h
  omega

/-! ## The lookup -/

theorem lookupIdx_of_error {ring : List RingEntry} {keyHash : UInt64} {idx : ℕ}
    (h : binarySearchBy (fun e => compare e.1 keyHash) ring = .error idx) :
    lookupIdx ring keyHash = if idx < ring.length then idx else 0 := by
  simp [lookupIdx, h]

/-- the search compares hashes as numbers -/
theorem binarySearchBy_toNat (ring : List RingEntry) (keyHash : UInt64) :
    binarySearchBy (fun e => compare e.1 keyHash) ring =
      binarySearchBy (fun e => compare ((fun e : RingEntry => e.1.toNat) e) keyHash.toNat) ring := by
  simp only [compare_toNat]

/-- on a ring sorted by hash the lookup lands inside the ring -/
theorem lookupIdx_lt {ring : List RingEntry} (hs : ring.Pairwise fun a b => a.1.toNat ≤ b.1.toNat) (hne : ring ≠ [])
    (keyHash : UInt64) : lookupIdx ring keyHash < ring.length := by
  have hlen : 0 < ring.length := List.length_pos_iff.2 hne
  cases h : binarySearchBy (fun e => compare e.1 keyHash) ring with
  | ok idx =>
    rw [binarySearchBy_toNat] at h
    obtain ⟨hi, -⟩ := binarySearchBy_ok (sorted_compare _ _ hs) h
    simpa [lookupIdx, binarySearchBy_toNat, h] using hi
  | error idx =>
    rw [lookupIdx_of_error h]
    split <;> omega

/-- with distinct hashes, the lookup is the first entry whose hash is at least the key's, or the end of the ring -/
theorem lookupIdx_eq {ring : List RingEntry} (hs : ring.Pairwise fun a b => a.1.toNat < b.1.toNat)
    (keyHash : UInt64) :
    lookupIdx ring keyHash =
      if ring.findIdx (fun e => keyHash ≤ e.1) < ring.length then ring.findIdx (fun e => keyHash ≤ e.1) else 0 := by
  have hfind : ring.findIdx (fun e => keyHash ≤ e.1) =
      ring.findIdx (fun e => decide (keyHash.toNat ≤ (fun e : RingEntry => e.1.toNat) e)) := by
    simp only [UInt64.le_iff_toNat_le]
  rw [hfind]
  cases h : binarySearchBy (fun e => compare e.1 keyHash) ring with
  | ok idx =>
    rw [binarySearchBy_toNat] at h
    have hidx := binarySearchBy_compare_ok hs h
    obtain ⟨hi, -⟩ := binarySearchBy_ok (sorted_compare _ _ (hs.imp le_of_lt)) h
    simp [lookupIdx, binarySearchBy_toNat, h, hidx, hi]
  | error idx =>
    rw [lookupIdx_of_error h]
    rw [binarySearchBy_toNat] at h
    rw [binarySearchBy_compare_error (hs.imp le_of_lt) h]

/-- with distinct hashes the lookup finds the owner of the key -/
theorem lookup_eq_ringOwner {ring : List RingEntry} (hs : ring.Pairwise fun a b => a.1.toNat < b.1.toNat)
    (keyHash : UInt64) : (ring[lookupIdx ring keyHash]?).map Prod.snd = ringOwner ring keyHash := by
  rw [lookupIdx_eq hs, ringOwner, List.find?_eq_getElem?_findIdx, List.head?_eq_getElem?]
  split
  · rename_i hlt
    rw [Option.or_of_isSome (by simp [hlt])]
  · rename_i hge
    have hnone : ring[ring.findIdx fun e => keyHash ≤ e.1]? = none := List.getElem?_eq_none (by omega)
    rw [hnone, Option.none_or]

/-- the lookup on a nonempty ring sorted by hash answers the index of one of its entries -/
theorem lookup_mem {ring : List RingEntry} (hs : ring.Pairwise fun a b => a.1.toNat ≤ b.1.toNat) (hne : ring ≠ [])
    (keyHash : UInt64) : ∃ e ∈ ring, ring[lookupIdx ring keyHash]? = some e :=
  ⟨_, List.getElem_mem (lookupIdx_lt hs hne keyHash), List.getElem?_eq_getElem _⟩

/-! ## The fresh ring -/

/-- the entries of the healthy index `idx`, none when it is past the end -/
def entriesAt (replicas : ℕ) (pool : BackendPool) (idx : ℕ) : List RingEntry :=
  (pool.backends[idx]?.map fun backend => replicaEntries replicas backend idx).getD []

/-- the loop panics exactly when some healthy index is past the end; otherwise it concatenates their entries -/
theorem ringEntries_eq (replicas : ℕ) (pool : BackendPool) :
    ringEntries replicas pool =
      if ∀ idx ∈ pool.healthy, idx < pool.backends.length then
        some (pool.healthy.flatMap (entriesAt replicas pool))
      else none := by
  unfold ringEntries
  -- induction on the healthy list, with the backends fixed
  generalize pool.healthy = healthy
  induction healthy with
  | nil => simp
  | cons idx rest ih =>
    rw [List.mapM_cons]
    by_cases hidx : idx < pool.backends.length
    · have hget := List.getElem?_eq_getElem hidx
      simp only [hget, Option.map_some] at ih ⊢
      split at ih
      · rename_i hall
        rw [Option.map_eq_some_iff] at ih
        obtain ⟨rs, hrs, hflat⟩ := ih
        simp [hrs, hflat, hidx, entriesAt]
        exact hall
      · rename_i hall
        rw [Option.map_eq_none_iff] at ih
        simp [ih, hall]
    · simp [hidx]

theorem freshRing_eq (replicas : ℕ) (pool : BackendPool) :
    freshRing replicas pool =
      if ∀ idx ∈ pool.healthy, idx < pool.backends.length then
        some ((pool.healthy.flatMap (entriesAt replicas pool)).mergeSort ringLe)
      else none := by
  rw [freshRing, ringEntries_eq]
  split <;> rfl

/-- what the ring reads of a backend: its address and its weight -/
def ringData (backend : BackendState) : String × ℕ := (backend.address, backend.weight)

theorem replicaEntries_congr (replicas idx : ℕ) {b b' : BackendState} (h : ringData b' = ringData b) :
    replicaEntries replicas b' idx = replicaEntries replicas b idx := by
  obtain ⟨haddr, hweight⟩ := Prod.mk.inj h
  unfold replicaEntries
  rw [haddr, hweight]

theorem entriesAt_congr (replicas : ℕ) {pool pool' : BackendPool} {idx : ℕ}
    (h : pool'.backends[idx]?.map ringData = pool.backends[idx]?.map ringData) :
    entriesAt replicas pool' idx = entriesAt replicas pool idx := by
  unfold entriesAt
  cases hb' : pool'.backends[idx]? with
  | none =>
    rw [hb', Option.map_none, eq_comm, Option.map_eq_none_iff] at h
    rw [h]
  | some b' =>
    rw [hb', Option.map_some, eq_comm, Option.map_eq_some_iff] at h
    obtain ⟨b, hb, hdata⟩ := h
    rw [hb, Option.map_some, Option.map_some, replicaEntries_congr replicas idx hdata.symm]

/-- the ring reads only the address and weight of the healthy backends, and the healthy set only up to order -/
theorem freshRing_congr (replicas : ℕ) {pool pool' : BackendPool} (hp : pool'.healthy.Perm pool.healthy)
    (hd : ∀ idx ∈ pool.healthy, pool'.backends[idx]?.map ringData = pool.backends[idx]?.map ringData) :
    freshRing replicas pool' = freshRing replicas pool := by
  -- a healthy index is in range in one pool exactly when it is in the other
  have hlt : ∀ idx ∈ pool.healthy, idx < pool'.backends.length ↔ idx < pool.backends.length := by
    intro idx hidx
    rw [← not_le, ← not_le, ← List.getElem?_eq_none_iff, ← List.getElem?_eq_none_iff,
      ← Option.map_eq_none_iff (f := ringData), hd idx hidx, Option.map_eq_none_iff]
  have hall : (∀ idx ∈ pool'.healthy, idx < pool'.backends.length) ↔ ∀ idx ∈ pool.healthy, idx < pool.backends.length :=
    ⟨fun h idx hidx => (hlt idx hidx).1 (h idx (hp.mem_iff.2 hidx)),
      fun h idx hidx => (hlt idx (hp.mem_iff.1 hidx)).2 (h idx (hp.mem_iff.1 hidx))⟩
  have hflat : pool.healthy.flatMap (entriesAt replicas pool') = pool.healthy.flatMap (entriesAt replicas pool) :=
    List.flatMap_congr fun idx hidx => entriesAt_congr replicas (hd idx hidx)
  rw [freshRing_eq, freshRing_eq]
  simp only [hall]
  split
  · have hperm : (pool'.healthy.flatMap (entriesAt replicas pool')).Perm
        (pool.healthy.flatMap (entriesAt replicas pool)) := (hp.flatMap_right _).trans (by rw [hflat])
    rw [sorted_ring_unique ((List.mergeSort_perm _ ringLe).trans hperm) (sorted_mergeSort _)]
  · rfl

/-- the ring depends on `healthy` only up to order -/
theorem freshRing_perm (replicas : ℕ) {pool pool' : BackendPool} (hb : pool'.backends = pool.backends)
    (hp : pool'.healthy.Perm pool.healthy) : freshRing replicas pool' = freshRing replicas pool :=
  freshRing_congr replicas hp fun idx _ => by rw [hb]

def pairPool : BackendPool :=
  BackendPool.newFromStates [BackendState.new ⟨"10.0.0.1:1", 1, none⟩, BackendState.new ⟨"10.0.0.2:1", 2, none⟩]

theorem pairPool_ring_ignores_order :
    freshRing 2 { pairPool with healthy := pairPool.healthy.reverse } = freshRing 2 pairPool :=
  freshRing_perm 2 rfl (List.reverse_perm _)

/-- an entry of the ring is a replica of a healthy index -/
theorem mem_freshRing {replicas : ℕ} {pool : BackendPool} {ring : List RingEntry}
    (h : freshRing replicas pool = some ring) {e : RingEntry} (he : e ∈ ring) :
    e.2 ∈ pool.healthy ∧ e ∈ entriesAt replicas pool e.2 := by
  rw [freshRing_eq] at h
  split at h
  · obtain rfl := Option.some.inj h
    rw [List.mem_mergeSort, List.mem_flatMap] at he
    obtain ⟨idx, hidx, he'⟩ := he
    have hsnd : e.2 = idx := by
      simp only [entriesAt, replicaEntries] at he'
      cases hb : pool.backends[idx]? <;> simp_all
      obtain ⟨r, -, rfl⟩ := he'
      rfl
    exact ⟨hsnd ▸ hidx, hsnd ▸ he'⟩
  · simp at h

theorem freshRing_sorted {replicas : ℕ} {pool : BackendPool} {ring : List RingEntry}
    (h : freshRing replicas pool = some ring) : ring.Pairwise fun a b => a.1.toNat ≤ b.1.toNat := by
  rw [freshRing] at h
  obtain ⟨entries, -, rfl⟩ := Option.map_eq_some_iff.1 h
  exact (sorted_mergeSort entries).imp hash_le_of_ringLe

/-! ## One pick -/

/-- the cache holds the fresh ring whenever its epoch is the pool's -/
def Coherent (ch : ConsistentHash) (pool : BackendPool) (ring : List RingEntry) : Prop :=
  ch.ringEpoch = some pool.membershipEpoch → ch.ring = ring

/-- a pick on a coherent cache answers the lookup on the fresh ring, whatever was cached, and caches that ring -/
theorem pick_coherent {ch : ConsistentHash} {pool : BackendPool} {ring : List RingEntry} (key : String)
    (hne : pool.backends ≠ []) (hfresh : freshRing ch.replicas pool = some ring) (hc : Coherent ch pool ring) :
    ∃ ch', ch'.replicas = ch.replicas ∧ ch'.ring = ring ∧ ch'.ringEpoch = some pool.membershipEpoch ∧
      ch.pick key pool = some (ch', (ring[lookupIdx ring (hash64 (Text.utf8 key))]?).map Prod.snd) := by
  -- the cache is either rebuilt or already holds `ring`; the lookup then reads `ring`
  have hready : ∃ ch', ch'.replicas = ch.replicas ∧ ch'.ring = ring ∧ ch'.ringEpoch = some pool.membershipEpoch ∧
      (if ch.ringEpoch ≠ some pool.membershipEpoch then
        (ch.rebuildRing pool).map fun ch =>
          { ch with ringEpoch := some pool.membershipEpoch, ringRebuilds := ch.ringRebuilds + 1 }
      else some ch) = some ch' := by
    by_cases hep : ch.ringEpoch = some pool.membershipEpoch
    · exact ⟨ch, rfl, hc hep, hep, by simp [hep]⟩
    · exact ⟨{ ch with ring := ring, ringEpoch := some pool.membershipEpoch, ringRebuilds := ch.ringRebuilds + 1 },
        rfl, rfl, rfl, by simp [hep, rebuildRing, hfresh]⟩
  obtain ⟨ch', hrep, hring, hep', hsome⟩ := hready
  refine ⟨ch', hrep, hring, hep', ?_⟩
  have hne' : pool.backends.isEmpty = false := by simpa using hne
  simp only [pick, hne', Bool.false_eq_true, if_false]
  rw [hsome, Option.bind_some, hring]
  cases ring with
  | nil => simp [lookupIdx, binarySearchBy]
  | cons e rest =>
    -- the fresh ring is sorted, so the lookup reads inside it and does not panic
    obtain ⟨e', -, hget⟩ := lookup_mem (freshRing_sorted hfresh) (List.cons_ne_nil e rest) (hash64 (Text.utf8 key))
    simp only [List.isEmpty_cons, Bool.false_eq_true, if_false, hget]
    rfl

/-- a pick on a coherent cache with distinct hashes answers the owner of the key on the fresh ring -/
theorem pick_eq_ringOwner {ch : ConsistentHash} {pool : BackendPool} {ring : List RingEntry} (key : String)
    (hne : pool.backends ≠ []) (hfresh : freshRing ch.replicas pool = some ring) (hc : Coherent ch pool ring)
    (hd : (ring.map Prod.fst).Nodup) :
    (ch.pick key pool).map Prod.snd = some (ringOwner ring (hash64 (Text.utf8 key))) := by
  obtain ⟨ch', -, -, -, hpick⟩ := pick_coherent key hne hfresh hc
  -- sorted by hash with no hash twice: the hashes increase strictly
  have hs : ring.Pairwise fun a b => a.1.toNat < b.1.toNat :=
    ((freshRing_sorted hfresh).and (List.pairwise_map.1 hd)).imp fun ⟨hle, hab⟩ =>
      lt_of_le_of_ne hle fun h => hab (UInt64.toNat_inj.1 h)
  rw [hpick, Option.map_some, lookup_eq_ringOwner hs]

/-- the ring of `pairPool` under four replicas: four entries of backend 0 and eight of backend 1 (weight 2) -/
def pairRing : List RingEntry :=
  [(6235281079797656672, 0), (6235282179309284883, 0), (6235283278820913094, 0), (6235284378332541305, 0),
    (9462546613569566608, 1), (9462547713081194819, 1), (9462548812592823030, 1), (9462549912104451241, 1),
    (9462551011616079452, 1), (9462552111127707663, 1), (9462553210639335874, 1), (9462554310150964085, 1)]

/-- the sort is checked through `sorted_ring_unique`: the list is sorted and a permutation of the entries pushed -/
theorem freshRing_pairPool : freshRing (new 4).replicas pairPool = some pairRing := by
  have hin : ∀ idx ∈ pairPool.healthy, idx < pairPool.backends.length := by decide
  rw [freshRing_eq, if_pos hin]
  exact congrArg some (sorted_ring_unique (by decide) (by decide)).symm

/-- two backends of weights 1 and 2 with four replicas: a ring of twelve entries with distinct hashes, on which a
fresh instance picks the owner of the key -/
theorem pair_pick_owner :
    ∃ ring, freshRing (new 4).replicas pairPool = some ring ∧ ring.length = 12 ∧
      ((new 4).pick "k" pairPool).map Prod.snd = some (ringOwner ring (hash64 (Text.utf8 "k"))) :=
  ⟨pairRing, freshRing_pairPool, rfl,
    pick_eq_ringOwner "k" (by decide) freshRing_pairPool (fun h => by cases h) (by decide)⟩

/-! ## The release profile picks an ejected backend -/

theorem replicaEntries_ne_nil {replicas : ℕ} {backend : BackendState} (idx : ℕ) (hr : 0 < replicas)
    (hw : 0 < backend.weight) : replicaEntries replicas backend idx ≠ [] := by
  have hpos : 0 < min (replicas * backend.weight) u32Max := lt_min (Nat.mul_pos hr hw) (by decide)
  simpa [replicaEntries, List.range_eq_nil] using hpos.ne'

theorem release_pick_returns_ejected_backend :
    ∃ p, BackendPool.run false BackendPool.loneBackend BackendPool.threeFailures = some p ∧
      (∀ i, ¬ BackendPool.HealthyIndex p i) ∧ ∀ replicas key, ∃ ch, (new replicas).pick key p = some (ch, some 0) := by
  have hrun : (BackendPool.run false BackendPool.loneBackend BackendPool.threeFailures).map
      (fun p => (p.healthy, p.backends.map fun b => (b.isHealthy, b.weight))) = some ([0], [(false, 1)]) := by
    decide
  cases hp : BackendPool.run false BackendPool.loneBackend BackendPool.threeFailures with
  | none => simp [hp] at hrun
  | some p =>
    simp only [hp, Option.map_some, Option.some.injEq, Prod.mk.injEq] at hrun
    obtain ⟨hhealthy, hbs⟩ := hrun
    obtain ⟨b, hb, hbw⟩ := List.map_eq_singleton_iff.1 hbs
    simp only [Prod.mk.injEq] at hbw
    refine ⟨p, rfl, ?_, fun replicas key => ?_⟩
    · -- the only backend is ejected
      rintro i ⟨b', hb', hh⟩
      rw [hb] at hb'
      cases i with
      | zero => simp_all
      | succ i => simp at hb'
    · -- the ring holds replicas of index 0 alone, and the cache is stale
      have hentries : entriesAt (max replicas 1) p 0 = replicaEntries (max replicas 1) b 0 := by
        simp [entriesAt, hb]
      have hfresh : freshRing (max replicas 1) p = some ((replicaEntries (max replicas 1) b 0).mergeSort ringLe) := by
        simp [freshRing_eq, hhealthy, hb, hentries]
      have hne : (replicaEntries (max replicas 1) b 0).mergeSort ringLe ≠ [] := by
        intro hnil
        have hperm : ([] : List RingEntry).Perm (replicaEntries (max replicas 1) b 0) :=
          hnil ▸ List.mergeSort_perm _ ringLe
        exact replicaEntries_ne_nil 0 (by omega) (by omega) hperm.symm.eq_nil
      obtain ⟨ch', -, -, -, hpick⟩ :=
        @pick_coherent (new replicas) p _ key (by simp [hb]) hfresh (fun h => by simp [new] at h)
      obtain ⟨e, he, hget⟩ := lookup_mem (freshRing_sorted hfresh) hne (hash64 (Text.utf8 key))
      have he0 : e.2 = 0 := by
        have := (mem_freshRing hfresh he).1
        simpa [hhealthy] using this
      exact ⟨ch', by rw [hpick, hget, Option.map_some, he0]⟩

end ConsistentHash

end Spooky.Lb
