/-
The SCID radix trie of the QUIC listener (`crates/edge/src/cid_radix.rs`).

A node stores the SCID that ends there, if any, and its children by next byte (a `HashMap<u8, CidTrieNode>`, here an
association list; `remove` drops every entry of the key). `insert` walks the SCID's bytes creating missing nodes;
`longest_prefix_match` walks a DCID and keeps the deepest SCID it passes; `remove` clears the value and prunes nodes
left without value and children on the way back up; `clear` replaces the root.

Abstract model: a finite set S of byte strings, updated by the same operations. Results:
- `lookup_insertAt`, `lookup_pruneRemove`: the value stored at each path changes exactly at the inserted or removed
  key, so a removal keeps siblings sharing the prefix and shorter SCIDs on the removed path;
- `walk_eq_longestIn`: the lookup loop, with its check of the final node, computes the value at the longest stored
  prefix (`LongestPrefix.longestIn`);
- `step_refines`, `run_refines`: each operation keeps the shape invariant `NodeOk` and the refinement `Refines`;
- `cid_radix_refines_finset`: over every sequence of operations the trie answers longest-prefix queries as S does,
  every node below the root holds a value or a child, and the node count is 1 plus the number of distinct non-empty
  prefixes of elements of S.
-/
import Spooky.Lib.KeyedList
import Spooky.Lib.LongestPrefix

namespace Spooky.Edge

abbrev Bytes := List UInt8

/-- a trie node: the SCID stored here, if any, and the children by next byte (`HashMap<u8, CidTrieNode>`) -/
inductive CidTrieNode where
  | mk (scid : Option Bytes) (children : List (UInt8 × CidTrieNode))

namespace CidTrieNode

open KeyedList

def scid : CidTrieNode → Option Bytes
  | mk s _ => s

def children : CidTrieNode → List (UInt8 × CidTrieNode)
  | mk _ cs => cs

/-- `CidTrieNode::default()` -/
def empty : CidTrieNode := mk none []

/-- the walk of `insert` (`entry(byte).or_default()` at each byte), storing the whole `scid` where the remaining
bytes end -/
def insertAt (scid : Bytes) : Bytes → CidTrieNode → CidTrieNode
  | [], mk _ cs => mk (some scid) cs
  | b :: rest, mk s cs => mk s (upsert b (insertAt scid rest ((get b cs).getD empty)) cs)

/-- the loop of `longest_prefix_match` from a node, with the best match found so far -/
def walk : CidTrieNode → Bytes → Option Bytes → Option Bytes
  | mk s _, [], best => s.or best
  | mk s cs, b :: rest, best =>
    match get b cs with
    | some next => walk next rest (s.or best)
    | none => s.or best

/-- `prune_remove`: the node after the call and whether it is left empty -/
def pruneRemove : Bytes → CidTrieNode → CidTrieNode × Bool
  | [], mk _ cs => (mk none cs, cs.isEmpty)
  | b :: rest, mk s cs =>
    let cs' :=
      match get b cs with
      | some child => if (pruneRemove rest child).2 then erase b cs else set b (pruneRemove rest child).1 cs
      | none => cs
    (mk s cs', s.isNone && cs'.isEmpty)

mutual
/-- `count_nodes` -/
def countNodes : CidTrieNode → ℕ
  | mk _ cs => 1 + countChildren cs
def countChildren : List (UInt8 × CidTrieNode) → ℕ
  | [] => 0
  | (_, n) :: rest => n.countNodes + countChildren rest
end

end CidTrieNode

structure CidRadix where
  root : CidTrieNode

namespace CidRadix

def new : CidRadix := ⟨.empty⟩

def insert (scid : Bytes) (r : CidRadix) : CidRadix := ⟨r.root.insertAt scid scid⟩

def longestPrefixMatch (dcid : Bytes) (r : CidRadix) : Option Bytes :=
  if dcid = [] then none else r.root.walk dcid none

def remove (scid : Bytes) (r : CidRadix) : CidRadix := ⟨(r.root.pruneRemove scid).1⟩

def clear (_ : CidRadix) : CidRadix := ⟨.empty⟩

def countNodes (r : CidRadix) : ℕ := r.root.countNodes

end CidRadix

example : (((CidRadix.new.insert [1, 2, 3, 4]).insert [1, 2, 3, 4, 5, 6]).longestPrefixMatch [1, 2, 3, 4, 5, 6, 7])
    = some [1, 2, 3, 4, 5, 6] := by decide

example : (((CidRadix.new.insert [1, 2, 3, 4]).insert [1, 2, 9]).remove [1, 2, 3, 4]).countNodes = 4 := by decide

/-! ## The value stored at each path -/

namespace CidTrieNode

open KeyedList LongestPrefix

/-- the node reached by following the bytes of a path -/
def descend : CidTrieNode → Bytes → Option CidTrieNode
  | n, [] => some n
  | mk _ cs, b :: rest => (get b cs).bind fun c => descend c rest

/-- the value stored at a path -/
def lookup (n : CidTrieNode) (p : Bytes) : Option Bytes := (descend n p).bind scid

@[simp] theorem lookup_nil (s : Option Bytes) (cs : List (UInt8 × CidTrieNode)) : lookup (mk s cs) [] = s := rfl

theorem lookup_cons (s : Option Bytes) (cs : List (UInt8 × CidTrieNode)) (b : UInt8) (p : Bytes) :
    lookup (mk s cs) (b :: p) = (get b cs).bind fun c => lookup c p := by
  simp only [lookup, descend]
  cases get b cs <;> rfl

@[simp] theorem lookup_empty (p : Bytes) : lookup empty p = none := by
  cases p <;> rfl

/-- a node with neither value nor children stores nothing -/
theorem lookup_of_isEmpty {n : CidTrieNode} (hs : n.scid = none) (hc : n.children = []) (p : Bytes) :
    lookup n p = none := by
  obtain ⟨s, cs⟩ := n
  simp only [scid, children] at hs hc
  subst hs hc
  cases p <;> rfl

/-- `insert` changes the stored value exactly at its key -/
theorem lookup_insertAt (v : Bytes) (r : Bytes) (n : CidTrieNode) (q : Bytes) :
    lookup (insertAt v r n) q = if q = r then some v else lookup n q := by
  induction r generalizing n q with
  | nil =>
    obtain ⟨s, cs⟩ := n
    cases q with
    | nil => rfl
    | cons b q => simp [insertAt, lookup_cons]
  | cons b r ih =>
    obtain ⟨s, cs⟩ := n
    cases q with
    | nil => simp [insertAt]
    | cons b' q =>
      by_cases hb : b' = b
      · subst hb
        simp only [insertAt, lookup_cons, get_upsert_self, Option.bind_some, ih, List.cons.injEq, true_and]
        split
        · rfl
        · cases get b' cs <;> simp
      · simp [insertAt, lookup_cons, get_upsert_ne hb, hb]

/-- the flag of `prune_remove` says the node is left with neither value nor children -/
theorem pruneRemove_flag (r : Bytes) (n : CidTrieNode) :
    (pruneRemove r n).2 = ((pruneRemove r n).1.scid.isNone && (pruneRemove r n).1.children.isEmpty) := by
  obtain ⟨s, cs⟩ := n
  cases r <;> rfl

/-- `remove` clears the stored value exactly at its key -/
theorem lookup_pruneRemove (r : Bytes) (n : CidTrieNode) (q : Bytes) :
    lookup (pruneRemove r n).1 q = if q = r then none else lookup n q := by
  induction r generalizing n q with
  | nil =>
    obtain ⟨s, cs⟩ := n
    cases q with
    | nil => rfl
    | cons b q => simp [pruneRemove, lookup_cons]
  | cons b r ih =>
    obtain ⟨s, cs⟩ := n
    cases q with
    | nil => simp [pruneRemove]
    | cons b' q =>
      by_cases hb : b' = b
      · subst hb
        cases hc : get b' cs with
        | none => simp [pruneRemove, lookup_cons, hc]
        | some child =>
          have hchild := ih child q
          simp only [pruneRemove, hc]
          split
          · -- the child is pruned: it stored nothing below
            rename_i hempty
            rw [pruneRemove_flag] at hempty
            simp only [Bool.and_eq_true, Option.isNone_iff_eq_none, List.isEmpty_iff] at hempty
            rw [lookup_of_isEmpty hempty.1 hempty.2 q] at hchild
            simp only [lookup_cons, get_erase_self, Option.bind_none, hc, Option.bind_some, List.cons.injEq,
              true_and]
            exact hchild
          · simp [lookup_cons, hc, hchild]
      · simp only [pruneRemove]
        split
        · split <;> simp [lookup_cons, get_erase_ne hb, get_set_ne hb, hb]
        · simp [hb]

/-! ## The shape invariant: values at their paths, distinct child keys, no dead node -/

/-- the node stores a SCID or has a child -/
def isLive (n : CidTrieNode) : Bool := n.scid.isSome || !n.children.isEmpty

mutual
/-- the subtree at path `p`: each value is its node's path, child keys are distinct, and every child is live -/
def NodeOk : Bytes → CidTrieNode → Prop
  | p, mk s cs => (∀ v, s = some v → v = p) ∧ ChildrenOk p cs
def ChildrenOk : Bytes → List (UInt8 × CidTrieNode) → Prop
  | _, [] => True
  | p, (b, n) :: rest => NodeOk (p ++ [b]) n ∧ n.isLive = true ∧ get b rest = none ∧ ChildrenOk p rest
end

theorem nodeOk_empty (p : Bytes) : NodeOk p empty := by
  simp [empty, NodeOk, ChildrenOk]

theorem childrenOk_get {p : Bytes} {cs : List (UInt8 × CidTrieNode)} {b : UInt8} {n : CidTrieNode}
    (h : ChildrenOk p cs) (hg : get b cs = some n) : NodeOk (p ++ [b]) n ∧ n.isLive = true := by
  induction cs with
  | nil => simp at hg
  | cons e rest ih =>
    obtain ⟨b₀, n₀⟩ := e
    simp only [ChildrenOk] at h
    by_cases hb : b₀ = b
    · subst hb
      simp only [KeyedList.get, if_pos, Option.some.injEq] at hg
      subst hg
      exact ⟨h.1, h.2.1⟩
    · simp only [KeyedList.get, hb, if_false] at hg
      exact ih h.2.2.2 hg

theorem childrenOk_set {p : Bytes} {cs : List (UInt8 × CidTrieNode)} {b : UInt8} {n : CidTrieNode}
    (h : ChildrenOk p cs) (hn : NodeOk (p ++ [b]) n) (hl : n.isLive = true) : ChildrenOk p (set b n cs) := by
  induction cs with
  | nil => trivial
  | cons e rest ih =>
    obtain ⟨b₀, n₀⟩ := e
    simp only [ChildrenOk] at h
    by_cases hb : b₀ = b
    · subst hb
      simp only [KeyedList.set, if_pos, ChildrenOk]
      exact ⟨hn, hl, h.2.2.1, h.2.2.2⟩
    · simp only [KeyedList.set, hb, if_false, ChildrenOk]
      exact ⟨h.1, h.2.1, by rw [get_set_ne hb]; exact h.2.2.1, ih h.2.2.2⟩

theorem childrenOk_upsert {p : Bytes} {cs : List (UInt8 × CidTrieNode)} {b : UInt8} {n : CidTrieNode}
    (h : ChildrenOk p cs) (hn : NodeOk (p ++ [b]) n) (hl : n.isLive = true) : ChildrenOk p (upsert b n cs) := by
  unfold upsert
  split
  · exact childrenOk_set h hn hl
  · rename_i hg
    exact ⟨hn, hl, hg, h⟩

theorem childrenOk_erase {p : Bytes} {cs : List (UInt8 × CidTrieNode)} (b : UInt8) (h : ChildrenOk p cs) :
    ChildrenOk p (erase b cs) := by
  induction cs with
  | nil => trivial
  | cons e rest ih =>
    obtain ⟨b₀, n₀⟩ := e
    simp only [ChildrenOk] at h
    by_cases hb : b₀ = b
    · rw [erase_cons, if_pos hb]
      exact ih h.2.2.2
    · have hrest : get b₀ (erase b rest) = none := by rw [get_erase_ne hb]; exact h.2.2.1
      rw [erase_cons, if_neg hb]
      exact ⟨h.1, h.2.1, hrest, ih h.2.2.2⟩

/-- `insert` keeps the shape, and the node it leaves at the start of its walk is live -/
theorem insertAt_ok (v : Bytes) (r p : Bytes) (n : CidTrieNode) (hv : v = p ++ r) (h : NodeOk p n) :
    NodeOk p (insertAt v r n) ∧ (insertAt v r n).isLive = true := by
  induction r generalizing p n with
  | nil =>
    obtain ⟨s, cs⟩ := n
    simp only [NodeOk] at h
    refine ⟨⟨fun v' hv' => ?_, h.2⟩, rfl⟩
    simp only [Option.some.injEq] at hv'
    simp [← hv', hv]
  | cons b r ih =>
    obtain ⟨s, cs⟩ := n
    simp only [NodeOk] at h
    -- the child on the walk: the existing one, or a fresh default node
    have hchild : NodeOk (p ++ [b]) ((get b cs).getD empty) := by
      cases hg : get b cs with
      | none => exact nodeOk_empty _
      | some c => exact (childrenOk_get h.2 hg).1
    obtain ⟨hok, hlive⟩ := ih (p ++ [b]) _ (by simp [hv]) hchild
    refine ⟨⟨h.1, childrenOk_upsert h.2 hok hlive⟩, ?_⟩
    simp [insertAt, isLive, children, upsert_ne_nil]

theorem isLive_eq (n : CidTrieNode) : n.isLive = !(n.scid.isNone && n.children.isEmpty) := by
  obtain ⟨s, cs⟩ := n
  cases s <;> simp [isLive, scid, children]

/-- the flag of `prune_remove` says the node it leaves is dead -/
theorem pruneRemove_flag_live (r : Bytes) (n : CidTrieNode) :
    (pruneRemove r n).2 = !(pruneRemove r n).1.isLive := by
  rw [pruneRemove_flag, isLive_eq, Bool.not_not]

/-- `remove` keeps the shape -/
theorem pruneRemove_ok (r p : Bytes) (n : CidTrieNode) (h : NodeOk p n) : NodeOk p (pruneRemove r n).1 := by
  induction r generalizing p n with
  | nil =>
    obtain ⟨s, cs⟩ := n
    exact ⟨fun v hv => by simp at hv, h.2⟩
  | cons b r ih =>
    obtain ⟨s, cs⟩ := n
    simp only [NodeOk] at h
    simp only [pruneRemove]
    refine ⟨h.1, ?_⟩
    cases hg : get b cs with
    | none => exact h.2
    | some child =>
      have hchild := ih (p ++ [b]) child (childrenOk_get h.2 hg).1
      simp only
      split
      · exact childrenOk_erase b h.2
      · rename_i hflag
        have hlive : (pruneRemove r child).1.isLive = true := by
          rw [pruneRemove_flag_live] at hflag
          simpa using hflag
        exact childrenOk_set h.2 hchild hlive

/-- under the shape invariant, the nodes below are live and keep the invariant at their paths -/
theorem descend_ok (q p : Bytes) (n m : CidTrieNode) (h : NodeOk p n) (hd : descend n q = some m) :
    NodeOk (p ++ q) m ∧ (q ≠ [] → m.isLive = true) := by
  induction q generalizing p n with
  | nil =>
    simp only [descend, Option.some.injEq] at hd
    subst hd
    simpa using h
  | cons b q ih =>
    obtain ⟨s, cs⟩ := n
    simp only [descend] at hd
    cases hg : get b cs with
    | none => simp [hg] at hd
    | some c =>
      simp only [hg, Option.bind_some] at hd
      obtain ⟨hc, hcl⟩ := childrenOk_get h.2 hg
      obtain ⟨hm, hml⟩ := ih (p ++ [b]) c hc hd
      refine ⟨by simpa using hm, fun _ => ?_⟩
      cases q with
      | nil =>
        simp only [descend, Option.some.injEq] at hd
        exact hd ▸ hcl
      | cons _ _ => exact hml (by simp)

/-! ## The lookup loop finds the longest stored prefix -/

/-- the loop of `longest_prefix_match` computes `longestIn` over the stored values, falling back on `best` -/
theorem walk_eq_longestIn (d : Bytes) (n : CidTrieNode) (best : Option Bytes) :
    walk n d best = (longestIn (lookup n) d).or best := by
  induction d generalizing n best with
  | nil =>
    obtain ⟨s, cs⟩ := n
    rfl
  | cons b d ih =>
    obtain ⟨s, cs⟩ := n
    simp only [walk, longestIn, lookup_cons, lookup_nil]
    cases hg : get b cs with
    | some next => simp [ih, Option.or_assoc]
    | none => simp [longestIn_none]

/-! ## Nodes and their paths -/

mutual
/-- the paths of all nodes of a subtree, its root first -/
def paths : CidTrieNode → List Bytes
  | mk _ cs => [] :: childPaths cs
def childPaths : List (UInt8 × CidTrieNode) → List Bytes
  | [] => []
  | (b, n) :: rest => n.paths.map (b :: ·) ++ childPaths rest
end

mutual
theorem countNodes_eq : ∀ n : CidTrieNode, n.countNodes = n.paths.length
  | mk _ cs => by simp [countNodes, paths, countChildren_eq cs, Nat.add_comm]
theorem countChildren_eq : ∀ cs : List (UInt8 × CidTrieNode), countChildren cs = (childPaths cs).length
  | [] => rfl
  | (_, n) :: rest => by simp [countChildren, childPaths, countNodes_eq n, countChildren_eq rest]
end

/-- every path below a node starts with the byte of one of its children -/
theorem mem_childPaths_head {cs : List (UInt8 × CidTrieNode)} {q : Bytes} (h : q ∈ childPaths cs) :
    ∃ b q', q = b :: q' ∧ (get b cs).isSome := by
  induction cs with
  | nil => simp [childPaths] at h
  | cons e rest ih =>
    obtain ⟨b₀, n₀⟩ := e
    simp only [childPaths, List.mem_append, List.mem_map] at h
    rcases h with ⟨q', -, rfl⟩ | h
    · exact ⟨b₀, q', rfl, by simp [KeyedList.get]⟩
    · obtain ⟨b, q', rfl, hb⟩ := ih h
      refine ⟨b, q', rfl, ?_⟩
      by_cases h₀ : b₀ = b <;> simp [KeyedList.get, h₀, hb]

mutual
theorem paths_nodup : ∀ (n : CidTrieNode) (p : Bytes), NodeOk p n → n.paths.Nodup
  | mk _ cs, p, h => by
    refine List.nodup_cons.2 ⟨fun hm => ?_, childPaths_nodup cs p h.2⟩
    obtain ⟨_, _, h', _⟩ := mem_childPaths_head hm
    cases h'
theorem childPaths_nodup : ∀ (cs : List (UInt8 × CidTrieNode)) (p : Bytes), ChildrenOk p cs → (childPaths cs).Nodup
  | [], _, _ => List.nodup_nil
  | (b, n) :: rest, p, h => by
    obtain ⟨hn, -, hfresh, hrest⟩ := h
    refine List.Nodup.append ((paths_nodup n _ hn).map fun _ _ => List.cons_injective.eq_iff.1)
      (childPaths_nodup rest p hrest) ?_
    -- the paths through `b` and through the other children differ in their first byte
    intro q hq hq'
    obtain ⟨q₁, -, rfl⟩ := List.mem_map.1 hq
    obtain ⟨b', q', heq, hb'⟩ := mem_childPaths_head hq'
    simp only [List.cons.injEq] at heq
    rw [← heq.1, hfresh] at hb'
    exact absurd hb' (by simp)
end

mutual
theorem mem_paths : ∀ (n : CidTrieNode) (p : Bytes), NodeOk p n → ∀ q, q ∈ n.paths ↔ (descend n q).isSome
  | mk _ cs, p, h, [] => by simp [paths, descend]
  | mk _ cs, p, h, b :: q => by
    simp only [paths, List.mem_cons, reduceCtorEq, false_or, descend, mem_childPaths cs p h.2 b q]
    cases get b cs <;> simp
theorem mem_childPaths : ∀ (cs : List (UInt8 × CidTrieNode)) (p : Bytes), ChildrenOk p cs → ∀ b q,
    b :: q ∈ childPaths cs ↔ ∃ c, get b cs = some c ∧ (descend c q).isSome
  | [], _, _, _, _ => by simp [childPaths]
  | (b₀, n₀) :: rest, p, h, b, q => by
    obtain ⟨hn, -, hfresh, hrest⟩ := h
    simp only [childPaths, List.mem_append, List.mem_map, List.cons.injEq, mem_childPaths rest p hrest b q]
    by_cases hb : b₀ = b
    · subst hb
      simp only [KeyedList.get, if_pos, Option.some.injEq, exists_eq_left', hfresh, reduceCtorEq, false_and,
        exists_false, or_false, ← mem_paths n₀ _ hn q]
      constructor
      · rintro ⟨q', hq', -, rfl⟩
        exact hq'
      · intro hq
        exact ⟨q, hq, trivial, rfl⟩
    · simp [KeyedList.get, hb]
end

/-! ## Which paths lead to a node -/

theorem descend_append (q t : Bytes) (n : CidTrieNode) :
    descend n (q ++ t) = (descend n q).bind fun m => descend m t := by
  induction q generalizing n with
  | nil => rfl
  | cons b q ih =>
    obtain ⟨s, cs⟩ := n
    simp only [List.cons_append, descend]
    cases get b cs <;> simp [ih]

theorem lookup_append (q t : Bytes) (n : CidTrieNode) :
    lookup n (q ++ t) = (descend n q).bind fun m => lookup m t := by
  simp only [lookup, descend_append, Option.bind_assoc]

mutual
/-- under the shape invariant a live node stores a value somewhere below it -/
theorem exists_lookup_of_live : ∀ (n : CidTrieNode) (p : Bytes), NodeOk p n → n.isLive = true →
    ∃ k, (lookup n k).isSome
  | mk s cs, p, h, hl => by
    cases s with
    | some v => exact ⟨[], rfl⟩
    | none =>
      have hcs : cs ≠ [] := by simpa [isLive, scid, children] using hl
      obtain ⟨b, c, k, hg, hk⟩ := exists_lookup_child cs p h.2 hcs
      exact ⟨b :: k, by simp [lookup_cons, hg, hk]⟩
theorem exists_lookup_child : ∀ (cs : List (UInt8 × CidTrieNode)) (p : Bytes), ChildrenOk p cs → cs ≠ [] →
    ∃ b c k, get b cs = some c ∧ (lookup c k).isSome
  | [], _, _, hne => absurd rfl hne
  | (b, c) :: _, _, h, _ => by
    obtain ⟨k, hk⟩ := exists_lookup_of_live c _ h.1 h.2.1
    exact ⟨b, c, k, by simp [KeyedList.get], hk⟩
end

/-- under the shape invariant the nodes are the root and those at prefixes of the stored paths -/
theorem descend_isSome_iff {n : CidTrieNode} {p : Bytes} (h : NodeOk p n) (q : Bytes) :
    (descend n q).isSome ↔ q = [] ∨ ∃ k, (lookup n k).isSome ∧ q <+: k := by
  constructor
  · intro hq
    by_cases hq0 : q = []
    · exact .inl hq0
    · -- the node at `q` is live, so a value is stored below it
      obtain ⟨m, hm⟩ := Option.isSome_iff_exists.1 hq
      obtain ⟨hmok, hml⟩ := descend_ok q p n m h hm
      obtain ⟨k, hk⟩ := exists_lookup_of_live m _ hmok (hml hq0)
      exact .inr ⟨q ++ k, by simp [lookup_append, hm, hk], List.prefix_append q k⟩
  · rintro (rfl | ⟨k, hk, t, rfl⟩)
    · rfl
    · rw [lookup_append] at hk
      cases hd : descend n q with
      | none => simp [hd] at hk
      | some m => rfl

end CidTrieNode

/-! ## Refinement of a finite set of byte strings -/

inductive CidOp where
  | insert (scid : Bytes)
  | remove (scid : Bytes)
  | clear
deriving DecidableEq, Repr

namespace CidRadix

open CidTrieNode LongestPrefix

def step (r : CidRadix) : CidOp → CidRadix
  | .insert scid => r.insert scid
  | .remove scid => r.remove scid
  | .clear => r.clear

def run (r : CidRadix) (ops : List CidOp) : CidRadix := ops.foldl step r

/-- the same operations on a set -/
def absStep (S : Finset Bytes) : CidOp → Finset Bytes
  | .insert scid => Insert.insert scid S
  | .remove scid => S.erase scid
  | .clear => ∅

def absRun (S : Finset Bytes) (ops : List CidOp) : Finset Bytes := ops.foldl absStep S

/-- the trie is in shape and stores exactly the elements of `S`, each at its own path -/
structure Refines (r : CidRadix) (S : Finset Bytes) : Prop where
  ok : r.root.NodeOk []
  lookup_eq : ∀ q, r.root.lookup q = if q ∈ S then some q else none

theorem refines_new : Refines new ∅ := ⟨nodeOk_empty [], fun q => by simp [new]⟩

theorem step_refines {r : CidRadix} {S : Finset Bytes} (h : Refines r S) (op : CidOp) :
    Refines (r.step op) (absStep S op) := by
  cases op with
  | insert scid =>
    refine ⟨(insertAt_ok scid scid [] r.root rfl h.ok).1, fun q => ?_⟩
    simp only [step, insert, absStep, lookup_insertAt, h.lookup_eq, Finset.mem_insert]
    by_cases hq : q = scid <;> simp [hq]
  | remove scid =>
    refine ⟨pruneRemove_ok scid [] r.root h.ok, fun q => ?_⟩
    simp only [step, remove, absStep, lookup_pruneRemove, h.lookup_eq, Finset.mem_erase]
    by_cases hq : q = scid <;> simp [hq]
  | clear => exact ⟨nodeOk_empty [], fun q => by simp [step, clear, absStep]⟩

theorem run_refines {r : CidRadix} {S : Finset Bytes} (h : Refines r S) (ops : List CidOp) :
    Refines (r.run ops) (absRun S ops) := by
  induction ops generalizing r S with
  | nil => exact h
  | cons op ops ih => exact ih (step_refines h op)

section Refines

variable {r : CidRadix} {S : Finset Bytes}

/-- a non-empty query returns the longest element of `S` that is a prefix of it -/
theorem longestPrefixMatch_spec (h : Refines r S) {dcid : Bytes} (hd : dcid ≠ []) :
    IsLongestPrefix S dcid (r.longestPrefixMatch dcid) := by
  rw [longestPrefixMatch, if_neg hd, walk_eq_longestIn, Option.or_none]
  exact isLongestPrefix_of_keys h.lookup_eq dcid

/-- every node other than the root stores a SCID or has a child -/
theorem live_of_refines (h : Refines r S) {q : Bytes} {m : CidTrieNode} (hq : q ≠ []) (hm : r.root.descend q = some m) :
    m.isLive = true :=
  (descend_ok q [] r.root m h.ok hm).2 hq

/-- one node for the root and one for each distinct non-empty prefix of a stored SCID -/
theorem countNodes_of_refines (h : Refines r S) : r.countNodes = 1 + (nonemptyPrefixes S).card := by
  rw [countNodes, countNodes_eq]
  refine length_eq_one_add_card (paths_nodup r.root [] h.ok) fun q => ?_
  rw [mem_paths r.root [] h.ok, descend_isSome_iff h.ok]
  simp [h.lookup_eq]

end Refines

theorem cid_radix_refines_finset (ops : List CidOp) :
    (∀ dcid, dcid ≠ [] → IsLongestPrefix (absRun ∅ ops) dcid ((new.run ops).longestPrefixMatch dcid)) ∧
      (∀ q m, q ≠ [] → (new.run ops).root.descend q = some m → m.isLive = true) ∧
      (new.run ops).countNodes = 1 + (nonemptyPrefixes (absRun ∅ ops)).card := by
  have h := run_refines refines_new ops
  exact ⟨fun _ hd => longestPrefixMatch_spec h hd, fun _ _ hq hm => live_of_refines h hq hm,
    countNodes_of_refines h⟩

end CidRadix

end Spooky.Edge
