/-
Counters as Rust keeps them: unsigned integers of fixed width, and counters shared by several holders.

The largest values of `u32`, `u64` and `usize` (on a 64-bit target) are where saturating operations stop; a wrapping
successor (`wrapping_add(1)`, an atomic `fetch_add(1)`) goes back to zero past the largest value, a saturating one
stays there, and both are the plain successor below it (`wrappingSucc_of_lt`, `saturatingSucc_of_lt`).

A counter shared by the members of a list, each of which holds a part of it, is a base plus the sum of the parts. A
member is replaced by another (one step of one member) and the counter moves by the change of that member's part;
`conserved_set` keeps the equation over such a step, and appending a member with its part keeps it too.
-/
import Mathlib.Tactic

namespace Counters

/-- `u32::MAX` -/
def u32Max : ℕ := 2 ^ 32 - 1

/-- `u64::MAX` -/
def u64Max : ℕ := 2 ^ 64 - 1

/-- `usize::MAX` on a 64-bit target -/
def usizeMax : ℕ := 2 ^ 64 - 1

/-- `wrapping_add(1)`, or `fetch_add(1)` on the atomic, for an unsigned integer whose largest value is `max` -/
def wrappingSucc (max n : ℕ) : ℕ := (n + 1) % (max + 1)

theorem wrappingSucc_of_lt {max n : ℕ} (h : n < max) : wrappingSucc max n = n + 1 :=
  Nat.mod_eq_of_lt (by omega)

/-- `saturating_add(1)` for an unsigned integer whose largest value is `max` -/
def saturatingSucc (max n : ℕ) : ℕ := min (n + 1) max

theorem saturatingSucc_of_lt {max n : ℕ} (h : n < max) : saturatingSucc max n = n + 1 :=
  min_eq_left h

/-- a number of at most `k` counted events, `k * 255 ≤ u64Max`, is below `u64Max` -/
theorem lt_u64Max_of_mul_le {n k : ℕ} (hn : n ≤ k) (hk : k * 255 ≤ u64Max) : n < u64Max := by
  unfold u64Max at hk ⊢
  omega

end Counters

namespace Shares

variable {α : Type} (f : α → ℕ)

/-- replacing the member at `k` changes the sum of the parts by the difference of the two parts -/
theorem sum_map_set_add {l : List α} {k : ℕ} {b : α} (hk : l[k]? = some b) (a : α) :
    ((l.set k a).map f).sum + f b = (l.map f).sum + f a := by
  induction l generalizing k with
  | nil => simp at hk
  | cons x l ih =>
    cases k with
    | zero =>
      rw [List.getElem?_cons_zero, Option.some.injEq] at hk
      subst hk
      simp only [List.set_cons_zero, List.map_cons, List.sum_cons]
      omega
    | succ k =>
      rw [List.getElem?_cons_succ] at hk
      have := ih hk
      simp only [List.set_cons_succ, List.map_cons, List.sum_cons]
      omega

/-- the part of a member is at most the sum -/
theorem le_sum_map {l : List α} {k : ℕ} {b : α} (hk : l[k]? = some b) : f b ≤ (l.map f).sum :=
  List.le_sum_of_mem (List.mem_map.2 ⟨b, List.mem_of_getElem? hk, rfl⟩)

variable {f}

/-- the step rule: a counter at `base` plus the parts stays so when the member at `k` is replaced by `a` and the
counter moves, whatever the parts of the others, from their sum plus the old part to their sum plus the new one -/
theorem conserved_set {l : List α} {k : ℕ} {b : α} (hk : l[k]? = some b) (a : α) {count count' base : ℕ}
    (hcount : count = base + (l.map f).sum) (hmove : ∀ rest, count = rest + f b → count' = rest + f a) :
    count' = base + ((l.set k a).map f).sum := by
  have hsum := sum_map_set_add f hk a
  have hle := le_sum_map f hk
  rw [hmove (base + ((l.map f).sum - f b)) (by omega)]
  omega

/-- appending a member with no part keeps the equation -/
theorem conserved_append {l : List α} {a : α} (ha : f a = 0) {count base : ℕ} (hcount : count = base + (l.map f).sum) :
    count = base + ((l ++ [a]).map f).sum := by
  simp [hcount, ha]

end Shares
