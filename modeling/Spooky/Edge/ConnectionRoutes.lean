/-
Route teardown of the QUIC listener (`crates/edge/src/quic_listener/connection.rs`).

The listener indexes its connections four ways: `connections` by primary SCID, `cid_routes` from an alias SCID to
its connection's primary, the SCID trie `cid_radix`, and `peer_routes` from a peer address to a primary.
`purge_connection_routes` drops a connection's SCIDs from `cid_radix` and `cid_routes` and its peer address from
`peer_routes`; `sweep_closed_connections` takes each listed key out of `connections` and purges the routes of the
connection it held. Maps are association lists (`KeyedList`); `routing_scids`, a `HashSet`, is a list in the order
the loop visits it. A connection is any type `C` read through `routes_of`, and a peer address any type with
decidable equality.

Results:
- `cidEntry_purge`, `peer_purge`: a purge removes exactly the entries keyed by the connection's SCIDs and its peer.
- `sweep_frame`, `sweep_invariant`: an observation that no purge of a listed connection changes is unchanged by the
  whole loop, and a property kept by one iteration holds after it.
- `sweep_removes_exactly_swept`: when every stored connection is indexed and their SCID sets are disjoint, the sweep
  (and a single purge) removes every entry of the swept connections and keeps the SCID entries of the others, and
  the peer route of each other one whose address no swept connection shares.
- `sweep_drops_shared_peer_route`: the purge removes the peer address unconditionally, so a surviving connection
  behind the same address as a swept one loses the route it held; `shared_peer_sweep_drops_survivor_route` is the
  case of two connections behind one NAT address, in a registry indexed as the listener leaves it.
-/
import Spooky.Edge.CidRadix

namespace Spooky.Edge

open KeyedList

/-- `ConnectionRoutes`: what a purge reads of a connection -/
structure ConnectionRoutes (A : Type) where
  primaryScid : Bytes
  routingScids : List Bytes
  peerAddress : A
deriving DecidableEq, Repr

/-- the SCIDs of a connection: its primary and its routing SCIDs -/
def ConnectionRoutes.scids {A : Type} (r : ConnectionRoutes A) : List Bytes := r.primaryScid :: r.routingScids

/-- the four indexes of the listener -/
structure Registry (C A : Type) where
  connections : List (Bytes × C)
  cidRoutes : List (Bytes × Bytes)
  cidRadix : CidRadix
  peerRoutes : List (A × Bytes)

namespace Registry

variable {C A : Type} [DecidableEq A]

/-- one SCID's removal from the trie and from `cid_routes` (one iteration of the loop of the purge) -/
def removeCid (s : Registry C A) (cid : Bytes) : Registry C A :=
  { s with cidRadix := s.cidRadix.remove cid, cidRoutes := erase cid s.cidRoutes }

/-- `purge_connection_routes` -/
def purgeConnectionRoutes (s : Registry C A) (primaryScid : Bytes) (routingScids : List Bytes) (peerAddress : A) :
    Registry C A :=
  let s := routingScids.foldl removeCid (s.removeCid primaryScid)
  { s with peerRoutes := erase peerAddress s.peerRoutes }

/-- one iteration of the loop of `sweep_closed_connections` -/
def sweepOne (routesOf : C → ConnectionRoutes A) (s : Registry C A) (scid : Bytes) : Registry C A :=
  match get scid s.connections with
  | some connection =>
    let routes := routesOf connection
    purgeConnectionRoutes { s with connections := erase scid s.connections } routes.primaryScid routes.routingScids
      routes.peerAddress
  | none => s

/-- `sweep_closed_connections` -/
def sweepClosedConnections (s : Registry C A) (toRemove : List Bytes) (routesOf : C → ConnectionRoutes A) :
    Registry C A :=
  toRemove.foldl (sweepOne routesOf) s

/-! ## A purge -/

/-- the entries keyed by a SCID: the value the trie stores at it and its alias route -/
def cidEntry (s : Registry C A) (q : Bytes) : Option Bytes × Option Bytes := (s.cidRadix.root.lookup q, get q s.cidRoutes)

omit [DecidableEq A] in
theorem cidEntry_removeCid (s : Registry C A) (cid q : Bytes) :
    (s.removeCid cid).cidEntry q = if q = cid then (none, none) else s.cidEntry q := by
  by_cases hq : q = cid
  · subst hq
    simp [cidEntry, removeCid, CidRadix.remove, CidTrieNode.lookup_pruneRemove]
  · simp [cidEntry, removeCid, CidRadix.remove, CidTrieNode.lookup_pruneRemove, get_erase_ne hq, hq]

omit [DecidableEq A] in
theorem cidEntry_foldl_removeCid (l : List Bytes) (s : Registry C A) (q : Bytes) :
    (l.foldl removeCid s).cidEntry q = if q ∈ l then (none, none) else s.cidEntry q := by
  induction l generalizing s with
  | nil => simp
  | cons cid l ih =>
    rw [List.foldl_cons, ih, cidEntry_removeCid]
    by_cases hl : q ∈ l <;> by_cases hq : q = cid <;> simp [hl, hq]

omit [DecidableEq A] in
@[simp] theorem foldl_removeCid_connections (l : List Bytes) (s : Registry C A) :
    (l.foldl removeCid s).connections = s.connections := by
  induction l generalizing s with
  | nil => rfl
  | cons cid l ih => exact ih _

omit [DecidableEq A] in
@[simp] theorem foldl_removeCid_peerRoutes (l : List Bytes) (s : Registry C A) :
    (l.foldl removeCid s).peerRoutes = s.peerRoutes := by
  induction l generalizing s with
  | nil => rfl
  | cons cid l ih => exact ih _

@[simp] theorem purge_connections (s : Registry C A) (primary : Bytes) (routing : List Bytes) (peer : A) :
    (s.purgeConnectionRoutes primary routing peer).connections = s.connections := by
  simp [purgeConnectionRoutes, removeCid]

/-- the purge clears the entries of the connection's SCIDs and no other -/
theorem cidEntry_purge (s : Registry C A) (primary : Bytes) (routing : List Bytes) (peer : A) (q : Bytes) :
    (s.purgeConnectionRoutes primary routing peer).cidEntry q =
      if q ∈ primary :: routing then (none, none) else s.cidEntry q :=
  -- the primary goes first, as one more iteration of the loop over the routing SCIDs
  cidEntry_foldl_removeCid (primary :: routing) s q

/-- the purge clears the route of the connection's peer address and no other -/
theorem peer_purge (s : Registry C A) (primary : Bytes) (routing : List Bytes) (peer p : A) :
    get p (s.purgeConnectionRoutes primary routing peer).peerRoutes = if p = peer then none else get p s.peerRoutes := by
  by_cases hp : p = peer
  · subst hp
    simp [purgeConnectionRoutes]
  · simp [purgeConnectionRoutes, removeCid, get_erase_ne hp, hp]

/-! ## The sweep loop -/

variable (routesOf : C → ConnectionRoutes A)

/-- the purge of a connection's routes, as the sweep calls it -/
abbrev purgeRoutes (s : Registry C A) (c : C) : Registry C A :=
  s.purgeConnectionRoutes (routesOf c).primaryScid (routesOf c).routingScids (routesOf c).peerAddress

theorem cidEntry_purgeRoutes (s : Registry C A) (c : C) (q : Bytes) :
    (purgeRoutes routesOf s c).cidEntry q = if q ∈ (routesOf c).scids then (none, none) else s.cidEntry q :=
  cidEntry_purge s _ _ _ q

theorem sweep_cons (s : Registry C A) (scid : Bytes) (rest : List Bytes) :
    s.sweepClosedConnections (scid :: rest) routesOf = (s.sweepOne routesOf scid).sweepClosedConnections rest routesOf :=
  rfl

theorem sweepOne_connections (s : Registry C A) (scid k : Bytes) :
    get k (s.sweepOne routesOf scid).connections = if k = scid then none else get k s.connections := by
  unfold sweepOne
  by_cases hk : k = scid
  · subst hk
    split <;> simp_all
  · split <;> simp [get_erase_ne hk, hk]

/-- a swept key leaves `connections`; the others keep their connection -/
theorem sweep_connections (toRemove : List Bytes) (s : Registry C A) (k : Bytes) :
    get k (s.sweepClosedConnections toRemove routesOf).connections =
      if k ∈ toRemove then none else get k s.connections := by
  induction toRemove generalizing s with
  | nil => simp [sweepClosedConnections]
  | cons scid rest ih =>
    rw [sweep_cons, ih, sweepOne_connections]
    by_cases h₁ : k ∈ rest <;> by_cases h₂ : k = scid <;> simp [h₁, h₂]

/-- a property that one iteration keeps holds after the whole loop -/
theorem sweep_invariant (P : Registry C A → Prop) (hstep : ∀ s scid, P s → P (s.sweepOne routesOf scid))
    (toRemove : List Bytes) (s : Registry C A) (h : P s) : P (s.sweepClosedConnections toRemove routesOf) := by
  induction toRemove generalizing s with
  | nil => exact h
  | cons scid rest ih => exact ih _ (hstep s scid h)

/-- an observation that does not read `connections` and that no purge of a listed connection changes is unchanged
by the whole loop -/
theorem sweep_frame {β : Type} (f : Registry C A → β) (hf : ∀ s k, f { s with connections := erase k s.connections } = f s)
    (toRemove : List Bytes) (s : Registry C A)
    (h : ∀ k c, get k s.connections = some c → k ∈ toRemove → ∀ s', f (purgeRoutes routesOf s' c) = f s') :
    f (s.sweepClosedConnections toRemove routesOf) = f s := by
  induction toRemove generalizing s with
  | nil => rfl
  | cons scid rest ih =>
    -- the connections left after the first iteration are among the original ones
    have hrest : ∀ k c, get k (s.sweepOne routesOf scid).connections = some c → k ∈ rest →
        ∀ s', f (purgeRoutes routesOf s' c) = f s' := by
      intro k c hk hmem
      rw [sweepOne_connections] at hk
      split at hk
      · simp at hk
      · exact h k c hk (List.mem_cons_of_mem _ hmem)
    rw [sweep_cons, ih _ hrest]
    unfold sweepOne
    split
    · rename_i c hc
      rw [h scid c hc List.mem_cons_self, hf]
    · rfl

/-- the sweep removes every entry of each connection it takes out -/
theorem sweep_gone (toRemove : List Bytes) (s : Registry C A) (k : Bytes) (c : C) (hk : get k s.connections = some c)
    (hmem : k ∈ toRemove) :
    (∀ q ∈ (routesOf c).scids, (s.sweepClosedConnections toRemove routesOf).cidEntry q = (none, none)) ∧
      get (routesOf c).peerAddress (s.sweepClosedConnections toRemove routesOf).peerRoutes = none := by
  induction toRemove generalizing s with
  | nil => simp at hmem
  | cons scid rest ih =>
    rw [sweep_cons]
    by_cases hks : k = scid
    · subst hks
      -- the first iteration purges `c`; the rest of the loop only removes entries
      have hpurge : s.sweepOne routesOf k = purgeRoutes routesOf { s with connections := erase k s.connections } c := by
        simp [sweepOne, hk]
      refine ⟨fun q hq => ?_, ?_⟩
      · refine sweep_invariant routesOf (fun s' => s'.cidEntry q = (none, none)) (fun s' scid h' => ?_) rest _ ?_
        · unfold sweepOne
          split
          · rw [cidEntry_purge]
            split <;> [rfl; exact h']
          · exact h'
        · rw [hpurge, cidEntry_purgeRoutes, if_pos hq]
      · refine sweep_invariant routesOf (fun s' => get (routesOf c).peerAddress s'.peerRoutes = none)
          (fun s' scid h' => ?_) rest _ ?_
        · unfold sweepOne
          split
          · rw [peer_purge]
            split <;> [rfl; exact h']
          · exact h'
        · rw [hpurge, peer_purge, if_pos rfl]
    · have hk' : get k (s.sweepOne routesOf scid).connections = some c := by
        rw [sweepOne_connections, if_neg hks, hk]
      exact ih _ hk' ((List.mem_cons.1 hmem).resolve_left hks)

/-! ## Indexed registries -/

/-- every stored connection is indexed as `store_connection` and `sync_connection_routes` leave it: keyed by its
primary, its SCIDs in the trie, its other routing SCIDs routed to the primary, and its peer address routed to a
stored connection of that address (the one stored last, when several share it); distinct connections have disjoint
SCID sets -/
structure Indexed (s : Registry C A) : Prop where
  keyed : ∀ k c, get k s.connections = some c → (routesOf c).primaryScid = k
  radix : ∀ k c, get k s.connections = some c → ∀ q ∈ (routesOf c).scids, s.cidRadix.root.lookup q = some q
  aliases : ∀ k c, get k s.connections = some c → ∀ q ∈ (routesOf c).routingScids, q ≠ k → get q s.cidRoutes = some k
  peer : ∀ k c, get k s.connections = some c → ∃ k' c', get (routesOf c).peerAddress s.peerRoutes = some k' ∧
    get k' s.connections = some c' ∧ (routesOf c').peerAddress = (routesOf c).peerAddress
  disjoint : ∀ k c k' c', get k s.connections = some c → get k' s.connections = some c' → k ≠ k' →
    ∀ q ∈ (routesOf c).scids, q ∉ (routesOf c').scids

/-- none of the connection's entries is left -/
structure RoutesGone (r : ConnectionRoutes A) (s : Registry C A) : Prop where
  cids : ∀ q ∈ r.scids, s.cidEntry q = (none, none)
  peer : get r.peerAddress s.peerRoutes = none

variable {routesOf}

/-- a purge of one indexed connection keeps the SCID entries of every other one, and the peer route of every
other one at another address -/
theorem purge_kept {s : Registry C A} (h : Indexed routesOf s) {k k' : Bytes} {c c' : C}
    (hk : get k s.connections = some c) (hk' : get k' s.connections = some c') (hne : k ≠ k') (s' : Registry C A) :
    (∀ q ∈ (routesOf c').scids, (purgeRoutes routesOf s' c).cidEntry q = s'.cidEntry q) ∧
      ((routesOf c').peerAddress ≠ (routesOf c).peerAddress →
        get (routesOf c').peerAddress (purgeRoutes routesOf s' c).peerRoutes =
          get (routesOf c').peerAddress s'.peerRoutes) := by
  refine ⟨fun q hq => ?_, fun hpeer => ?_⟩
  · rw [cidEntry_purgeRoutes, if_neg fun hq' => h.disjoint k c k' c' hk hk' hne q hq' hq]
  · rw [peer_purge, if_neg hpeer]

/-- what the sweep does: each listed connection leaves with all its entries; each other one stays with its SCID
entries, and with its peer route when no listed connection shares its address; a single purge does the same for
one connection -/
structure SweepSpec (routesOf : C → ConnectionRoutes A) (s : Registry C A) (toRemove : List Bytes) : Prop where
  swept : ∀ k c, get k s.connections = some c → k ∈ toRemove →
    get k (s.sweepClosedConnections toRemove routesOf).connections = none ∧
      RoutesGone (routesOf c) (s.sweepClosedConnections toRemove routesOf)
  kept : ∀ k c, get k s.connections = some c → k ∉ toRemove →
    get k (s.sweepClosedConnections toRemove routesOf).connections = some c ∧
      (∀ q ∈ (routesOf c).scids, (s.sweepClosedConnections toRemove routesOf).cidEntry q = s.cidEntry q) ∧
      ((∀ k' c', get k' s.connections = some c' → k' ∈ toRemove → (routesOf c).peerAddress ≠ (routesOf c').peerAddress) →
        get (routesOf c).peerAddress (s.sweepClosedConnections toRemove routesOf).peerRoutes =
          get (routesOf c).peerAddress s.peerRoutes)
  purge : ∀ k c, get k s.connections = some c →
    RoutesGone (routesOf c) (purgeRoutes routesOf s c) ∧
      ∀ k' c', get k' s.connections = some c' → k' ≠ k →
        (∀ q ∈ (routesOf c').scids, (purgeRoutes routesOf s c).cidEntry q = s.cidEntry q) ∧
        ((routesOf c').peerAddress ≠ (routesOf c).peerAddress →
          get (routesOf c').peerAddress (purgeRoutes routesOf s c).peerRoutes = get (routesOf c').peerAddress s.peerRoutes)

theorem sweep_removes_exactly_swept (routesOf : C → ConnectionRoutes A) (s : Registry C A) (toRemove : List Bytes)
    (h : Indexed routesOf s) : SweepSpec routesOf s toRemove := by
  refine ⟨fun k c hk hmem => ?_, fun k c hk hmem => ?_, fun k c hk => ?_⟩
  · obtain ⟨hcids, hpeer⟩ := sweep_gone routesOf toRemove s k c hk hmem
    exact ⟨by rw [sweep_connections, if_pos hmem], hcids, hpeer⟩
  · -- a surviving connection is disjoint from every swept one, so no purge of the loop touches its SCID entries
    have hne : ∀ k', k' ∈ toRemove → k ≠ k' := fun k' hk' heq => hmem (heq ▸ hk')
    refine ⟨by rw [sweep_connections, if_neg hmem, hk], fun q hq => ?_, fun hpeers => ?_⟩
    · exact sweep_frame routesOf (fun s' => s'.cidEntry q) (fun _ _ => rfl) toRemove s
        fun k' c' hk' hmem' s' => (purge_kept h hk' hk (hne k' hmem').symm s').1 q hq
    · exact sweep_frame routesOf (fun s' => get (routesOf c).peerAddress s'.peerRoutes) (fun _ _ => rfl) toRemove s
        fun k' c' hk' hmem' s' => (purge_kept h hk' hk (hne k' hmem').symm s').2 (hpeers k' c' hk' hmem')
  · refine ⟨⟨fun q hq => ?_, ?_⟩, fun k' c' hk' hne => purge_kept h hk hk' (Ne.symm hne) s⟩
    · rw [cidEntry_purgeRoutes, if_pos hq]
    · rw [peer_purge, if_pos rfl]

/-- the sweep purges a swept connection's peer address even when a surviving connection shares the address and
holds its route: the survivor stays, and its peer route is gone -/
theorem sweep_drops_shared_peer_route (routesOf : C → ConnectionRoutes A) (s : Registry C A) (toRemove : List Bytes)
    {k k' : Bytes} {c c' : C} (hk : get k s.connections = some c) (hswept : k ∈ toRemove)
    (hk' : get k' s.connections = some c') (hkept : k' ∉ toRemove)
    (hshared : (routesOf c).peerAddress = (routesOf c').peerAddress)
    (hroute : get (routesOf c').peerAddress s.peerRoutes = some k') :
    get (routesOf c').peerAddress s.peerRoutes = some k' ∧
      get k' (s.sweepClosedConnections toRemove routesOf).connections = some c' ∧
      get (routesOf c').peerAddress (s.sweepClosedConnections toRemove routesOf).peerRoutes = none := by
  refine ⟨hroute, by rw [sweep_connections, if_neg hkept, hk'], ?_⟩
  rw [← hshared]
  exact (sweep_gone routesOf toRemove s k c hk hswept).2

/-- two connections behind one NAT address: `store_connection` routes the address to the one it stored last -/
def sharedPeer : Registry (ConnectionRoutes ℕ) ℕ :=
  ⟨[([1, 1], ⟨[1, 1], [[1, 1]], 7⟩), ([2, 2], ⟨[2, 2], [[2, 2]], 7⟩)], [],
    (CidRadix.new.insert [1, 1]).insert [2, 2], [(7, [2, 2])]⟩

/-- the registry is indexed, and sweeping the first connection drops the route of the second -/
theorem shared_peer_sweep_drops_survivor_route :
    Indexed id sharedPeer ∧ get 7 sharedPeer.peerRoutes = some [2, 2] ∧
      get [2, 2] (sharedPeer.sweepClosedConnections [[1, 1]] id).connections = some ⟨[2, 2], [[2, 2]], 7⟩ ∧
      get 7 (sharedPeer.sweepClosedConnections [[1, 1]] id).peerRoutes = none := by
  -- a stored connection is one of the two entries
  have hmem : ∀ k c, get k sharedPeer.connections = some c →
      k = [1, 1] ∧ c = ⟨[1, 1], [[1, 1]], 7⟩ ∨ k = [2, 2] ∧ c = ⟨[2, 2], [[2, 2]], 7⟩ := by
    intro k c hk
    simpa [sharedPeer] using mem_of_get hk
  have hsurvivor : get [2, 2] sharedPeer.connections = some ⟨[2, 2], [[2, 2]], 7⟩ := by decide
  have hindexed : Indexed id sharedPeer := by
    refine ⟨?_, ?_, ?_, ?_, ?_⟩
    · intro k c hk
      rcases hmem k c hk with ⟨rfl, rfl⟩ | ⟨rfl, rfl⟩ <;> rfl
    · intro k c hk
      rcases hmem k c hk with ⟨rfl, rfl⟩ | ⟨rfl, rfl⟩ <;> decide
    · intro k c hk
      rcases hmem k c hk with ⟨rfl, rfl⟩ | ⟨rfl, rfl⟩ <;> decide
    · -- both addresses are the NAT address, routed to the second connection
      intro k c hk
      rcases hmem k c hk with ⟨rfl, rfl⟩ | ⟨rfl, rfl⟩ <;> exact ⟨[2, 2], _, by decide, hsurvivor, rfl⟩
    · intro k c k' c' hk hk'
      rcases hmem k c hk with ⟨rfl, rfl⟩ | ⟨rfl, rfl⟩ <;> rcases hmem k' c' hk' with ⟨rfl, rfl⟩ | ⟨rfl, rfl⟩ <;> decide
  exact ⟨hindexed, sweep_drops_shared_peer_route id sharedPeer [[1, 1]] (k := [1, 1]) (c := ⟨[1, 1], [[1, 1]], 7⟩)
    (by decide) (by decide) hsurvivor (by decide) rfl (by decide)⟩

end Registry

end Spooky.Edge
