/-
Reading a list round and round, as a counter taken modulo the list's length does. The `k` reads from offset `start`
visit the positions `(start + j) % n` for `j < k`. Any `n` consecutive positions are `0, …, n - 1` in some order
(`residues_perm_range`), so over `k` reads each position is visited `k / n` or `k / n + 1` times
(`count_residues`). When the list has no duplicates the same holds of each of its elements (`count_reads_bounds`),
and any `n` consecutive reads read the whole list once (`window_reads_perm`).
-/
import Mathlib.Tactic

namespace Rotation

variable {α : Type}

/-! ## Positions -/

/-- the positions that `k` reads from offset `start` visit on a circle of `n` -/
def residues (n start k : ℕ) : List ℕ := (List.range k).map fun j => (start + j) % n

@[simp] theorem length_residues (n start k : ℕ) : (residues n start k).length = k := by
  simp [residues]

/-- reading `k + m` times is reading `k` times and then `m` times from where those left off -/
theorem residues_add (n start k m : ℕ) :
    residues n start (k + m) = residues n start k ++ residues n (start + k) m := by
  simp only [residues, List.range_add, List.map_append, List.map_map, Function.comp_def, Nat.add_assoc]

theorem residues_lt {n start k p : ℕ} (hn : 0 < n) (hp : p ∈ residues n start k) : p < n := by
  obtain ⟨j, -, rfl⟩ := List.mem_map.1 hp
  exact Nat.mod_lt _ hn

/-- at most `n` consecutive reads visit distinct positions -/
theorem nodup_residues {n start k : ℕ} (hk : k ≤ n) : (residues n start k).Nodup := by
  refine List.nodup_range.map_on fun i hi j hj hij => ?_
  rw [List.mem_range] at hi hj
  exact Nat.ModEq.eq_of_lt_of_lt (Nat.ModEq.add_left_cancel' start hij) (by omega) (by omega)

/-- `n` consecutive reads visit every position once -/
theorem residues_perm_range {n : ℕ} (hn : 0 < n) (start : ℕ) : (residues n start n).Perm (List.range n) :=
  ((nodup_residues le_rfl).subperm fun _ hp => List.mem_range.2 (residues_lt hn hp)).perm_of_length_le (by simp)

theorem count_residues_period {n p : ℕ} (hn : 0 < n) (hp : p < n) (start : ℕ) :
    (residues n start n).count p = 1 := by
  rw [(residues_perm_range hn start).count_eq]
  exact List.count_eq_one_of_mem List.nodup_range (List.mem_range.2 hp)

/-- over `k` reads every position is visited `k / n` or `k / n + 1` times -/
theorem count_residues {n p : ℕ} (hn : 0 < n) (hp : p < n) (start k : ℕ) :
    k / n ≤ (residues n start k).count p ∧ (residues n start k).count p ≤ k / n + 1 := by
  induction k using Nat.strong_induction_on generalizing start with
  | _ k ih =>
    by_cases hk : k < n
    · -- fewer reads than positions: each is visited at most once
      rw [Nat.div_eq_of_lt hk]
      exact ⟨Nat.zero_le _, List.nodup_iff_count_le_one.1 (nodup_residues hk.le) p⟩
    · -- one full turn, then the rest
      obtain ⟨m, rfl⟩ : ∃ m, k = n + m := ⟨k - n, by omega⟩
      have hm := ih m (by omega) (start + n)
      rw [residues_add, List.count_append, count_residues_period hn hp, Nat.add_comm n m,
        Nat.add_div_right m hn]
      omega

/-- the `m` reads from the `j`-th on are the reads from where the first `j` left off -/
theorem window_residues {n start k j m : ℕ} (h : j + m ≤ k) :
    ((residues n start k).drop j).take m = residues n (start + j) m := by
  obtain ⟨r, rfl⟩ : ∃ r, k = j + m + r := ⟨k - (j + m), by omega⟩
  rw [residues_add, residues_add, List.append_assoc, List.drop_left' (length_residues _ _ _),
    List.take_left' (length_residues _ _ _)]

/-! ## Elements -/

/-- the elements that `k` reads from offset `start` read from `l` -/
def reads (l : List α) (start k : ℕ) : List (Option α) := (residues l.length start k).map (l[·]?)

@[simp] theorem length_reads (l : List α) (start k : ℕ) : (reads l start k).length = k := by
  simp [reads]

@[simp] theorem reads_zero (l : List α) (start : ℕ) : reads l start 0 = [] := rfl

/-- a read at the offset, then the reads from the next position -/
theorem reads_succ (l : List α) (start k : ℕ) :
    reads l start (k + 1) = l[start % l.length]? :: reads l (start + 1) k := by
  rw [reads, Nat.add_comm, residues_add]
  simp [residues, reads]

/-- the reads of the empty list are all empty, from wherever they start -/
theorem reads_nil (start k : ℕ) : reads ([] : List α) start k = List.replicate k none := by
  simp [reads]

theorem map_getElem?_range (l : List α) : (List.range l.length).map (l[·]?) = l.map some := by
  apply List.ext_getElem (by simp)
  intro i h1 h2
  simp

/-- any `n` consecutive reads read the whole list, each element once -/
theorem window_reads_perm {l : List α} {start k j : ℕ} (h : j + l.length ≤ k) :
    (((reads l start k).drop j).take l.length).Perm (l.map some) := by
  rcases Nat.eq_zero_or_pos l.length with hn | hn
  · simp [List.length_eq_zero_iff.1 hn]
  · rw [reads, ← List.map_drop, ← List.map_take, window_residues h, ← map_getElem?_range]
    exact (residues_perm_range hn _).map _

variable [DecidableEq α] {l : List α}

/-- with no duplicates, an element is read as often as its position is visited -/
theorem count_reads (hnd : l.Nodup) {a : α} (ha : a ∈ l) (start k : ℕ) :
    (reads l start k).count (some a) = (residues l.length start k).count (l.idxOf a) := by
  have hn : 0 < l.length := List.length_pos_of_mem ha
  rw [reads, List.count_eq_countP, List.count_eq_countP, List.countP_map]
  apply List.countP_congr
  intro p hp
  have hpl : p < l.length := residues_lt hn hp
  -- position `p` holds `a` exactly when it is the position of `a`
  simp only [Function.comp_apply, beq_iff_eq, List.getElem?_eq_getElem hpl, Option.some.injEq]
  constructor
  · rintro rfl
    exact (hnd.idxOf_getElem p hpl).symm
  · rintro rfl
    exact List.getElem_idxOf _

/-- over `k` reads of a list with no duplicates, each element is read `k / n` or `k / n + 1` times -/
theorem count_reads_bounds (hnd : l.Nodup) {a : α} (ha : a ∈ l) (start k : ℕ) :
    k / l.length ≤ (reads l start k).count (some a) ∧ (reads l start k).count (some a) ≤ k / l.length + 1 := by
  rw [count_reads hnd ha]
  exact count_residues (List.length_pos_of_mem ha) (List.idxOf_lt_length_iff.2 ha) start k

end Rotation
