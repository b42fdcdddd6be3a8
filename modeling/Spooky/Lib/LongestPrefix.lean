/-
Longest-prefix matching over lists. `longestIn lk d` is the value at the longest prefix of `d` where the partial map
`lk` holds one, computed the way a trie walk does: descend first, fall back on the value at the current node.
`longestIn_spec` says it is the longest; over a finite key set `S` that stores each key at itself,
`isLongestPrefix_of_keys` reads the result as the longest element of `S` that is a prefix of `d`.

The non-empty prefixes of a key set are the nodes a trie of those keys needs below its root;
`length_eq_one_add_card` counts a duplicate-free enumeration of them.
-/
import Mathlib.Tactic

namespace LongestPrefix

variable {α β : Type}

/-! ## The walk -/

/-- the value at the longest prefix of the list where `lk` holds one -/
def longestIn (lk : List α → Option β) : List α → Option β
  | [] => lk []
  | a :: rest => (longestIn (fun q => lk (a :: q)) rest).or (lk [])

@[simp] theorem longestIn_none (d : List α) : longestIn (fun _ => (none : Option β)) d = none := by
  induction d with
  | nil => rfl
  | cons a d ih => simpa [longestIn] using ih

/-- the value at a longest prefix holding one, or none when no prefix holds one -/
def LongestSpec (lk : List α → Option β) (d : List α) : Option β → Prop
  | some v => ∃ q, q <+: d ∧ lk q = some v ∧ ∀ q', q' <+: d → (lk q').isSome → q'.length ≤ q.length
  | none => ∀ q, q <+: d → lk q = none

theorem longestIn_spec (d : List α) (lk : List α → Option β) : LongestSpec lk d (longestIn lk d) := by
  induction d generalizing lk with
  | nil =>
    simp only [longestIn]
    cases h : lk [] with
    | none =>
      intro q hq
      rw [List.prefix_nil.1 hq, h]
    | some v =>
      exact ⟨[], List.nil_prefix, h, fun q' hq' _ => by simp [List.prefix_nil.1 hq']⟩
  | cons a d ih =>
    have hrest := ih fun q => lk (a :: q)
    simp only [longestIn]
    cases hr : longestIn (fun q => lk (a :: q)) d with
    | some v =>
      -- the deepest match is below the first element
      rw [hr] at hrest
      obtain ⟨q, hq, hv, hmax⟩ := hrest
      refine ⟨a :: q, List.prefix_cons_iff.2 (.inr ⟨q, rfl, hq⟩), hv, fun q' hq' hs => ?_⟩
      rcases List.prefix_cons_iff.1 hq' with rfl | ⟨t, rfl, ht⟩
      · simp
      · simpa using hmax t ht hs
    | none =>
      -- nothing below the first element: only the empty prefix is left
      rw [hr] at hrest
      cases h0 : lk [] with
      | none =>
        intro q hq
        rcases List.prefix_cons_iff.1 hq with rfl | ⟨t, rfl, ht⟩
        · exact h0
        · exact hrest t ht
      | some v =>
        refine ⟨[], List.nil_prefix, by simpa using h0, fun q' hq' hs => ?_⟩
        rcases List.prefix_cons_iff.1 hq' with rfl | ⟨t, rfl, ht⟩
        · simp
        · simp [hrest t ht] at hs

/-! ## Over a key set -/

/-- the answer is the longest element of `S` that is a prefix of `d`, or none when no element of `S` is one -/
def IsLongestPrefix (S : Finset (List α)) (d : List α) : Option (List α) → Prop
  | some v => v ∈ S ∧ v <+: d ∧ ∀ w ∈ S, w <+: d → w.length ≤ v.length
  | none => ∀ w ∈ S, ¬ w <+: d

/-- a map that stores each key of `S` at itself answers longest-prefix queries as `S` does -/
theorem isLongestPrefix_of_keys [DecidableEq α] {S : Finset (List α)} {lk : List α → Option (List α)}
    (hlk : ∀ q, lk q = if q ∈ S then some q else none) (d : List α) : IsLongestPrefix S d (longestIn lk d) := by
  have h := longestIn_spec d lk
  cases hr : longestIn lk d with
  | none =>
    rw [hr] at h
    intro w hw hp
    have hw' := h w hp
    rw [hlk, if_pos hw] at hw'
    exact absurd hw' (by simp)
  | some v =>
    rw [hr] at h
    obtain ⟨q, hq, hv, hmax⟩ := h
    rw [hlk] at hv
    split at hv
    · rename_i hS
      obtain rfl : q = v := Option.some.inj hv
      exact ⟨hS, hq, fun w hw hp => hmax w hp (by simp [hlk, hw])⟩
    · simp at hv

/-! ## Counting prefixes -/

/-- the distinct non-empty prefixes of the elements of `S` -/
def nonemptyPrefixes [DecidableEq α] (S : Finset (List α)) : Finset (List α) :=
  (S.biUnion fun k => k.inits.toFinset).erase []

theorem mem_nonemptyPrefixes [DecidableEq α] {S : Finset (List α)} {q : List α} :
    q ∈ nonemptyPrefixes S ↔ q ≠ [] ∧ ∃ k ∈ S, q <+: k := by
  simp [nonemptyPrefixes, List.mem_inits]

/-- a duplicate-free list of the empty list and the non-empty prefixes of `S` has one element more than them -/
theorem length_eq_one_add_card [DecidableEq α] {S : Finset (List α)} {l : List (List α)} (hl : l.Nodup)
    (hmem : ∀ q, q ∈ l ↔ q = [] ∨ ∃ k ∈ S, q <+: k) : l.length = 1 + (nonemptyPrefixes S).card := by
  have hset : l.toFinset = insert [] (nonemptyPrefixes S) := by
    ext q
    rw [List.mem_toFinset, hmem, Finset.mem_insert, mem_nonemptyPrefixes]
    by_cases hq : q = [] <;> simp [hq]
  have hnil : ([] : List α) ∉ nonemptyPrefixes S := by simp [mem_nonemptyPrefixes]
  calc l.length = l.toFinset.card := (List.toFinset_card_of_nodup hl).symm
    _ = (nonemptyPrefixes S).card + 1 := by rw [hset, Finset.card_insert_of_notMem hnil]
    _ = 1 + (nonemptyPrefixes S).card := Nat.add_comm _ _

end LongestPrefix
