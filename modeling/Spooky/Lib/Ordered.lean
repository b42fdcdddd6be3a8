/-
Two computations over lists of a linearly ordered type, as the source writes them with `Vec` methods and loops.

The canonical form of a list (`Canonical.canonicalize`), as `sort_unstable` followed by `Vec::dedup` computes it:
sorted, with each element equal to the one before it dropped. It is strictly increasing and has the list's elements
(`pairwise_lt_canonicalize`, `mem_canonicalize`), so it is determined by the set of elements
(`canonicalize_congr`): canonicalising the image of a canonical list is canonicalising the image of the list
(`canonicalize_map_canonicalize`).

Minima kept by a fold (`MinFold.minStep`): a loop that keeps the least element met so far, replacing it only by a
strictly smaller one, computes `List.min?` of what it meets (`foldl_minStep`), and so does not depend on the order
in which it meets it (`min?_perm`).
-/
import Mathlib.Data.List.Destutter
import Mathlib.Data.List.Sort
import Mathlib.Tactic

namespace Canonical

variable {α β : Type} [LinearOrder α] [LinearOrder β]

/-- `sort_unstable` then `dedup`; any sort gives the same list, as equal elements of a linear order are identical -/
def canonicalize (l : List α) : List α := (l.mergeSort fun a b => decide (a ≤ b)).destutter (· ≠ ·)

theorem canonicalize_eq_dedup (l : List α) : canonicalize l = (l.mergeSort fun a b => decide (a ≤ b)).dedup :=
  (List.pairwise_mergeSort' (· ≤ ·) l).destutter_eq_dedup

@[simp] theorem mem_canonicalize {l : List α} {a : α} : a ∈ canonicalize l ↔ a ∈ l := by
  rw [canonicalize_eq_dedup, List.mem_dedup, List.mem_mergeSort]

/-- the canonical form increases strictly: sorted, and with no element twice -/
theorem pairwise_lt_canonicalize (l : List α) : (canonicalize l).Pairwise (· < ·) := by
  rw [canonicalize_eq_dedup]
  have hle : (l.mergeSort fun a b => decide (a ≤ b)).dedup.Pairwise (· ≤ ·) :=
    (List.pairwise_mergeSort' (· ≤ ·) l).sublist (List.dedup_sublist _)
  exact (hle.and (List.nodup_dedup _)).imp fun h => lt_of_le_of_ne h.1 h.2

/-- two lists with the same elements have the same canonical form -/
theorem canonicalize_congr {l l' : List α} (h : ∀ a, a ∈ l ↔ a ∈ l') : canonicalize l = canonicalize l' :=
  (pairwise_lt_canonicalize l).eq_of_mem_iff (pairwise_lt_canonicalize l') fun a => by simp [h a]

@[simp] theorem canonicalize_eq_nil {l : List α} : canonicalize l = [] ↔ l = [] := by
  rw [List.eq_nil_iff_forall_not_mem, List.eq_nil_iff_forall_not_mem]
  simp

/-- the image of the canonical form has the elements of the image of the list -/
theorem canonicalize_map_canonicalize (f : α → β) (l : List α) :
    canonicalize ((canonicalize l).map f) = canonicalize (l.map f) :=
  canonicalize_congr fun b => by simp

end Canonical

namespace MinFold

variable {α : Type} [LinearOrder α]

/-- one iteration of a loop keeping the least element met so far; on a tie the earlier element stays -/
def minStep (best : Option α) (x : α) : Option α :=
  match best with
  | none => some x
  | some b => if x < b then some x else some b

theorem minStep_some (b x : α) : minStep (some b) x = some (min b x) := by
  by_cases hx : x < b
  · rw [minStep, if_pos hx, min_eq_right hx.le]
  · rw [minStep, if_neg hx, min_eq_left (not_lt.1 hx)]

theorem foldl_minStep_some (l : List α) (b : α) : l.foldl minStep (some b) = some (l.foldl min b) := by
  induction l generalizing b with
  | nil => rfl
  | cons x xs ih => rw [List.foldl_cons, minStep_some, ih, List.foldl_cons]

/-- the loop computes the least element -/
theorem foldl_minStep (l : List α) : l.foldl minStep none = l.min? := by
  cases l with
  | nil => rfl
  | cons x xs => rw [List.foldl_cons, List.min?_cons', ← foldl_minStep_some]; rfl

/-- the least element does not depend on the order of the list -/
theorem min?_perm {l l' : List α} (h : l.Perm l') : l.min? = l'.min? := by
  cases hm : l.min? with
  | none =>
    rw [List.min?_eq_none_iff] at hm
    subst hm
    rw [List.perm_nil.1 h.symm]
    rfl
  | some a =>
    obtain ⟨ha, hle⟩ := List.min?_eq_some_iff.1 hm
    exact (List.min?_eq_some_iff.2 ⟨h.mem_iff.1 ha, fun b hb => hle b (h.mem_iff.2 hb)⟩).symm

/-- one more value folded into an optional running minimum -/
theorem min?_concat (l : List α) (u : α) : (l ++ [u]).min? = some ((l.min?.map (min · u)).getD u) := by
  cases l with
  | nil => rfl
  | cons x xs => rw [List.cons_append, List.min?_cons', List.min?_cons', List.foldl_append]; rfl

end MinFold
